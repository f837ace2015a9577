import OctoChannel.Chats.Caches

/-! The tasks that read and write the chat caches: inbound frames, roster and MD
fetches, the group prefetch. Each is cut at its awaits; between two of them a task runs
alone, so an interleaving is a list of events. -/

namespace OctoChannel.Chats

open Foundation Identity

/-- An inbound message. `namesBot` answers the search for "@<BotName>" in a text. -/
structure Frame where
  fromUid : PyStr
  channelId : PyStr
  channelType : Nat
  mention : Option MentionField
  namesBot : Bool
  content : PyStr
  deriving DecidableEq

/-- What `get_group_members` ends in. -/
inductive RosterAnswer where
  | members (members : List GroupMember)
  | failed
  deriving DecidableEq

/-- What an MD request ends in; an absent or empty text is no content. -/
inductive MdAnswer where
  | found (entry : Option MdEntry)
  | failed
  deriving DecidableEq

def MdAnswer.content? : MdAnswer → Option MdEntry
  | .found (some entry) => if entry.content = [] then none else some entry
  | _ => none

structure GroupInfo where
  groupNo : PyStr
  name : PyStr
  deriving DecidableEq

/-- What `fetch_bot_groups` ends in. -/
inductive GroupsAnswer where
  | groups (groups : List GroupInfo)
  | failed
  deriving DecidableEq

/-- A roster request under way, and the frame that waits for it. -/
structure RosterFetch where
  parent : PyStr
  generation : Nat
  now : Int
  waiter : Option Frame
  deriving DecidableEq

/-- A task at an await. -/
inductive Task where
  /-- The facts of the frame are recorded; its file may still be looked up. -/
  | frame (frame : Frame)
  | roster (fetch : RosterFetch)
  /-- `_ensure_group_md` or `_ensure_thread_md` -/
  | ensureMd (key groupNo : PyStr) (generation : Nat)
  /-- A refresh that was created and has not run yet. -/
  | scheduledMd (channelId parent : PyStr) (generation : Nat)
  /-- `_refresh_group_md_at_generation` -/
  | refreshMd (channelId parent : PyStr) (generation : Nat)
  /-- `_prefetch_groups_and_members` -/
  | prefetch (snapshotGenerations : Dict PyStr Nat)
  deriving DecidableEq

structure System (Names : Type) where
  caches : Caches Names
  tasks : List (Nat × Task)
  nextId : Nat

/-- What the runtime is given: its settings, and how display names are learnt. -/
structure Runtime (Names : Type) where
  settings : Settings
  learn : Names → List GroupMember → Names

inductive Event where
  | frameArrives (frame : Frame) (now : Int)
  | frameContinues (id : Nat) (session : Bool) (now : Int)
  | rosterStarts (groupNo : PyStr) (force session : Bool) (now : Int)
  | rosterEnds (id : Nat) (answer : RosterAnswer) (now : Int)
  | mdEvent (channelId : PyStr) (deleted session : Bool) (refused : PyStr → Bool)
  | refreshStarts (id : Nat) (session : Bool)
  | groupMdStarts (channelId : PyStr) (session : Bool)
  | threadMdStarts (channelId : PyStr) (session : Bool)
  | mdEnds (id : Nat) (answer : MdAnswer) (write : MdWrite) (refused : PyStr → Bool)
  | evict (groupNo : PyStr) (refused : PyStr → Bool)
  | sweep (cutoff : Int)
  | groupMdUpdate (groupId : PyStr) (entry : MdEntry) (write : MdWrite)
  | threadMdUpdate (groupId shortId : PyStr) (entry : MdEntry) (write : MdWrite)
  | prefetchStarts (session : Bool)
  | prefetchEnds (id : Nat) (answer : GroupsAnswer) (now : Int) (refused : PyStr → Bool)
  | cancelled (id : Nat)

namespace Caches

variable {Names : Type} (caches : Caches Names) (runtime : Runtime Names)

/-- Up to the request: none is made without a session, or while the cache is fresh. -/
def rosterFetch? (groupNo : PyStr) (force session : Bool) (now : Int) (waiter : Option Frame) :
    Option RosterFetch :=
  let parent := parentGroupNo groupNo
  let lastFetched := (caches.groupCacheTimestamps.get? parent).getD 0
  if !session then none
  else if !force ∧ now - lastFetched ≤ groupCacheExpiryMs ∧ 0 < lastFetched then none
  else some ⟨parent, caches.groupScopeGeneration parent, now, waiter⟩

/-- An empty or failed answer: nobody is verified, and the next try comes soon. -/
def unverify (parent : PyStr) (now : Int) : Caches Names :=
  { caches with
    groupRobotMap := caches.groupRobotMap.erase parent
    groupCacheTimestamps :=
      caches.groupCacheTimestamps.set parent (now - groupCacheExpiryMs + 30000) }

/-- Behind the request. -/
def rosterEnds (fetch : RosterFetch) (answer : RosterAnswer) : Caches Names :=
  if fetch.generation ≠ caches.groupScopeGeneration fetch.parent then caches
  else
    match answer with
    | .failed => caches.unverify fetch.parent fetch.now
    | .members members =>
      if members = [] then caches.unverify fetch.parent fetch.now
      else
        let cached := caches.cacheGroupMembers runtime.learn runtime.settings.robotId fetch.parent
          members
        { cached with
          groupCacheTimestamps := cached.groupCacheTimestamps.set fetch.parent fetch.now }

inductive GateEnd where
  | recorded
  | denied
  | passed
  deriving DecidableEq

/-- A mention of the bot by uid, a broadcast to the AIs, or "@<BotName>" in the text. -/
def isMentioned (settings : Settings) (frame : Frame) : Bool :=
  (frame.mention.any fun mention =>
    settings.robotId ∈ mention.uids || (!settings.ignoreMentionAll && (mention.ais = some true ||
      (mention.all = some true && mention.humans.isNone && mention.ais.isNone)))) || frame.namesBot

def gate (settings : Settings) (frame : Frame) : GateEnd :=
  if (groupType? frame.channelType).isNone || isMentioned settings frame then .passed
  else if settings.requireMention then .recorded
  else
    let flags := (caches.groupRobotMap.get? (parentGroupNo frame.channelId)).getD .empty
    if flags.get? frame.fromUid = some (some false) then .passed else .denied

/-- The gate, with the history that a frame leaves there. -/
def throughGate (settings : Settings) (frame : Frame) (now : Int) : Caches Names :=
  match caches.gate settings frame with
  | .recorded => caches.recordHistoryEntry frame.channelId
      ⟨frame.fromUid, frame.content, frame.mention, now⟩ settings.historyLimit
  | .denied => caches
  | .passed => caches

/-- The facts of a frame, up to its first await. -/
def recordFrame (frame : Frame) (now : Int) : Caches Names :=
  match groupType? frame.channelType with
  | some kind => caches.recordGroupFrame frame.channelId kind now
  | none =>
    match directChatId runtime.settings frame.fromUid frame.channelId with
    | .error _ => caches
    | .ok chatId =>
      caches.recordDirectFrame chatId (extractBaseUid runtime.settings.digits frame.fromUid) now

/-- `_ensure_group_md` and `_ensure_thread_md` up to the request. -/
def ensureMd? (key groupNo : PyStr) (session : Bool) : Option Task :=
  let generation := caches.groupScopeGeneration groupNo
  if key ∈ caches.groupMdChecked then none
  else if !session then none
  else if 0 < generation ∧ groupNo ∉ caches.knownGroupIds then none
  else some (.ensureMd key groupNo generation)

/-- Behind the request. -/
def ensureMdEnds (key groupNo : PyStr) (generation : Nat) (answer : MdAnswer) (write : MdWrite) :
    Caches Names :=
  if generation ≠ caches.groupScopeGeneration groupNo then caches
  else
    match answer with
    | .failed => caches
    | .found entry =>
      let checked : Caches Names :=
        { caches with groupMdChecked := insert key caches.groupMdChecked }
      match MdAnswer.content? (.found entry) with
      | none => checked
      | some entry => checked.storeMd key entry write

/-- `_refresh_group_md_at_generation` behind the request. -/
def refreshMdEnds (channelId parent : PyStr) (generation : Nat) (answer : MdAnswer)
    (write : MdWrite) (refused : PyStr → Bool) : Caches Names :=
  if generation ≠ caches.groupScopeGeneration parent then caches
  else
    match answer with
    | .failed => caches
    | .found entry =>
      match MdAnswer.content? (.found entry) with
      | some entry => caches.storeMd channelId entry write
      | none =>
        { caches with groupMdCache := caches.groupMdCache.erase channelId }.deleteMdFromDisk
          (· = channelId) refused

/-- The cache update of the tool actions, behind a successful request. -/
def toolUpdate (key : PyStr) (entry : MdEntry) (write : MdWrite) : Caches Names :=
  let cached : Caches Names :=
    { caches with
      groupMdCache := caches.groupMdCache.set key entry
      groupMdChecked := insert key caches.groupMdChecked }
  cached.writeMdToDisk key entry write

/-- The known groups that an answer does not list. -/
def staleGroups (groups : List GroupInfo) : List PyStr :=
  caches.knownGroupIds.filter fun groupNo => groupNo ∉ groups.map GroupInfo.groupNo

/-- Index one group, unless its scope was evicted while the answer was awaited. -/
def indexGroup (snapshotGenerations : Dict PyStr Nat) (now : Int) (group : GroupInfo) :
    Caches Names :=
  if caches.groupScopeGeneration group.groupNo ≠
      (snapshotGenerations.get? group.groupNo).getD 0 then caches
  else
    let known : Caches Names :=
      { caches with knownGroupIds := caches.knownGroupIds.insert group.groupNo }
    let touched := known.touchCache group.groupNo now
    { touched with
      chatKind := touched.chatKind.set group.groupNo .Group
      groupNames := if group.name = [] then touched.groupNames
        else touched.groupNames.set group.groupNo group.name }

/-- Behind the request; a malformed answer changes nothing. -/
def prefetchEnds (snapshotGenerations : Dict PyStr Nat) (answer : GroupsAnswer) (now : Int)
    (refused : PyStr → Bool) : Caches Names :=
  match answer with
  | .failed => caches
  | .groups groups =>
    if groups.any fun group => group.groupNo = [] then caches
    else
      let evicted := (caches.staleGroups groups).foldl
        (fun caches groupNo => caches.evictGroupScope groupNo refused) caches
      groups.foldl (fun caches group => caches.indexGroup snapshotGenerations now group) evicted

end Caches

namespace System

variable {Names : Type} (system : System Names) (runtime : Runtime Names)

def start (names : Names) (mdFiles : Dict PyStr MdEntry) : System Names :=
  ⟨.empty names mdFiles, [], 0⟩

def task? (id : Nat) : Option Task := (system.tasks.find? fun task => task.1 = id).map Prod.snd

def drop (id : Nat) : System Names :=
  { system with tasks := system.tasks.filter fun task => task.1 ≠ id }

def spawn (task : Task) : System Names :=
  { system with tasks := (system.nextId, task) :: system.tasks, nextId := system.nextId + 1 }

def spawn? (task : Option Task) : System Names :=
  match task with
  | none => system
  | some task => system.spawn task

def withCaches (caches : Caches Names) : System Names := { system with caches }

/-- A frame behind the look-up of its file: a group frame asks for the roster first. -/
def frameFetch? (frame : Frame) (session : Bool) (now : Int) : Option RosterFetch :=
  if (groupType? frame.channelType).isSome ∧ frame.channelId ≠ [] then
    system.caches.rosterFetch? frame.channelId false session now (some frame)
  else none

/-- One event. -/
def step (event : Event) : System Names :=
  match event with
  | .frameArrives frame now =>
    if frame.fromUid = runtime.settings.robotId then system
    else
      let recorded := system.withCaches (system.caches.recordFrame runtime frame now)
      if frame.content = [] then recorded else recorded.spawn (.frame frame)
  | .frameContinues id session now =>
    match system.task? id with
    | some (.frame frame) =>
      match system.frameFetch? frame session now with
      | some fetch => (system.drop id).spawn (.roster fetch)
      | none => (system.drop id).withCaches
          (system.caches.throughGate runtime.settings frame now)
    | _ => system
  | .rosterStarts groupNo force session now =>
    system.spawn? ((system.caches.rosterFetch? groupNo force session now none).map .roster)
  | .rosterEnds id answer now =>
    match system.task? id with
    | some (.roster fetch) =>
      let ended := system.caches.rosterEnds runtime fetch answer
      match fetch.waiter with
      | none => (system.drop id).withCaches ended
      | some frame => (system.drop id).withCaches
          (ended.throughGate runtime.settings frame now)
    | _ => system
  | .mdEvent channelId deleted session refused =>
    let handled := system.withCaches (system.caches.handleGroupMdEvent channelId deleted refused)
    let parent := (splitThreadChannelId channelId).1
    if !deleted && session then
      handled.spawn (.scheduledMd channelId parent (handled.caches.groupScopeGeneration parent))
    else handled
  | .refreshStarts id session =>
    match system.task? id with
    | some (.scheduledMd channelId parent generation) =>
      if generation ≠ system.caches.groupScopeGeneration parent ∨ session = false then
        system.drop id
      else (system.drop id).spawn (.refreshMd channelId parent generation)
    | _ => system
  | .groupMdStarts channelId session =>
    let parent := (splitThreadChannelId channelId).1
    system.spawn? (system.caches.ensureMd? parent parent session)
  | .threadMdStarts channelId session =>
    match splitThreadChannelId channelId with
    | (_, none) => system
    | (parent, some shortId) =>
      system.spawn? (system.caches.ensureMd? (threadKey parent shortId) parent session)
  | .mdEnds id answer write refused =>
    match system.task? id with
    | some (.ensureMd key groupNo generation) =>
      (system.drop id).withCaches
        (system.caches.ensureMdEnds key groupNo generation answer write)
    | some (.refreshMd channelId parent generation) =>
      (system.drop id).withCaches
        (system.caches.refreshMdEnds channelId parent generation answer write refused)
    | _ => system
  | .evict groupNo refused => system.withCaches (system.caches.evictGroupScope groupNo refused)
  | .sweep cutoff => system.withCaches (system.caches.cleanupCaches cutoff)
  | .groupMdUpdate groupId entry write =>
    system.withCaches (system.caches.toolUpdate groupId entry write)
  | .threadMdUpdate groupId shortId entry write =>
    system.withCaches (system.caches.toolUpdate (threadKey groupId shortId) entry write)
  | .prefetchStarts session =>
    if session then system.spawn (.prefetch system.caches.groupScopeGenerations) else system
  | .prefetchEnds id answer now refused =>
    match system.task? id with
    | some (.prefetch generations) =>
      (system.drop id).withCaches (system.caches.prefetchEnds generations answer now refused)
    | _ => system
  | .cancelled id => system.drop id

def run (events : List Event) : System Names := events.foldl (fun system => system.step runtime) system

end System

end OctoChannel.Chats

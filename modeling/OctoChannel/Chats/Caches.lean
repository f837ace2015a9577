import OctoChannel.Foundation.Links
import OctoChannel.Chats.ChannelIds

/-! What one identity remembers of its chats: membership, rosters, GROUP.md and
THREAD.md, histories and chat kinds, with the methods that read and write it. Display
names are a state of their own, `Names`, that the rosters teach. -/

namespace OctoChannel.Chats

open Foundation Identity

/-- `GROUP_CACHE_EXPIRY_MS` -/
def groupCacheExpiryMs : Int := 60 * 60 * 1000

/-- The JSON value of a member's `robot` field. -/
inductive RobotField where
  | bool (value : Bool)
  | int (value : Int)
  | other
  deriving DecidableEq

structure GroupMember where
  uid : PyStr
  name : PyStr
  robot : RobotField
  deriving DecidableEq

structure MdEntry where
  content : PyStr
  version : Int
  deriving DecidableEq

/-- What a message says of its mentions; `none` is an absent value. -/
structure MentionField where
  uids : List PyStr
  all : Option Bool
  humans : Option Bool
  ais : Option Bool
  deriving DecidableEq

structure HistoryEntry where
  sender : PyStr
  body : PyStr
  mention : Option MentionField
  timestamp : Int
  deriving DecidableEq

/-- The caches of one runtime, and the MD files on its disk. -/
structure Caches (Names : Type) where
  groupScopeGenerations : Dict PyStr Nat
  knownGroupIds : List PyStr
  groupNames : Dict PyStr PyStr
  groupMemberRosters : Dict PyStr (Dict PyStr PyStr)
  groupRobotMap : Dict PyStr (Dict PyStr (Option Bool))
  groupCacheTimestamps : Dict PyStr Int
  userGroupIndex : Links PyStr PyStr
  groupHistories : Dict PyStr (List HistoryEntry)
  groupMdCache : Dict PyStr MdEntry
  groupMdChecked : Finset PyStr
  chatKind : Dict PyStr ChannelType
  cacheActivity : Dict PyStr Int
  spaceDmTargets : Dict PyStr PyStr
  mdFiles : Dict PyStr MdEntry
  names : Names

/-- How far a write of an MD file comes; errors are swallowed. -/
inductive MdWrite where
  | whole
  | contentOnly
  | refused
  deriving DecidableEq

/-- The settings of a runtime that are read here. -/
structure Settings where
  robotId : PyStr
  requireMention : Bool
  ignoreMentionAll : Bool
  historyLimit : Nat
  /-- Sole identity, or the verified legacy primary. -/
  plainDmChatIds : Bool
  /-- `scoped_dm_chat_id(robot_id, wire_chat_id)` -/
  scopedDmChatId : PyStr → Except PyError PyStr
  digits : DigitChars

namespace Caches

variable {Names : Type} (caches : Caches Names)

def empty (names : Names) (mdFiles : Dict PyStr MdEntry) : Caches Names where
  groupScopeGenerations := .empty
  knownGroupIds := []
  groupNames := .empty
  groupMemberRosters := .empty
  groupRobotMap := .empty
  groupCacheTimestamps := .empty
  userGroupIndex := .empty
  groupHistories := .empty
  groupMdCache := .empty
  groupMdChecked := ∅
  chatKind := .empty
  cacheActivity := .empty
  spaceDmTargets := .empty
  mdFiles
  names

def groupScopeGeneration (groupNo : PyStr) : Nat :=
  (caches.groupScopeGenerations.get? groupNo).getD 0

def invalidateGroupScope (groupNo : PyStr) : Caches Names :=
  { caches with
    groupScopeGenerations :=
      caches.groupScopeGenerations.set groupNo (caches.groupScopeGeneration groupNo + 1) }

/-- The flag under which a member is kept: `None` where the field says nothing. -/
def robotFlag : RobotField → Option Bool
  | .bool value => some value
  | .int value => if value = 0 then some false else if value = 1 then some true else none
  | .other => none

/-- The roster names of `_cache_group_members`. -/
def rosterOf (members : List GroupMember) : Dict PyStr PyStr :=
  members.foldl (fun roster member =>
    if member.name = [] ∨ member.uid = [] then roster else roster.set member.uid member.name) .empty

/-- The robot flags of `_cache_group_members`. -/
def robotMapOf (members : List GroupMember) : Dict PyStr (Option Bool) :=
  members.foldl (fun flags member =>
    if member.uid = [] then flags else flags.set member.uid (robotFlag member.robot)) .empty

/-- `_update_user_group_index` -/
def updateUserGroupIndex (robotId groupNo : PyStr) (members : List GroupMember) : Caches Names :=
  if groupNo = [] then caches
  else
    let freshUids := (members.map GroupMember.uid).filter fun uid => uid ≠ [] ∧ uid ≠ robotId
    let added := freshUids.foldl (fun index uid => Links.link index uid groupNo)
      caches.userGroupIndex
    { caches with
      userGroupIndex := added.filterMapValues fun uid groups =>
        if groupNo ∈ groups ∧ uid ∉ freshUids then
          if groups.erase groupNo = ∅ then none else some (groups.erase groupNo)
        else some groups }

/-- `_cache_group_members` -/
def cacheGroupMembers (learn : Names → List GroupMember → Names) (robotId groupNo : PyStr)
    (members : List GroupMember) : Caches Names :=
  let parent := parentGroupNo groupNo
  let stored : Caches Names :=
    { caches with
      names := learn caches.names members
      groupMemberRosters := caches.groupMemberRosters.set parent (rosterOf members)
      groupRobotMap := caches.groupRobotMap.set parent (robotMapOf members) }
  stored.updateUserGroupIndex robotId parent members

/-- `_write_md_to_disk` -/
def writeMdToDisk (key : PyStr) (entry : MdEntry) : MdWrite → Caches Names
  | .whole => { caches with mdFiles := caches.mdFiles.set key entry }
  | .contentOnly =>
    { caches with
      mdFiles := caches.mdFiles.set key
        ⟨entry.content, ((caches.mdFiles.get? key).map MdEntry.version).getD 0⟩ }
  | .refused => caches

/-- `_delete_md_from_disk`, of every key of a set; a deletion may be refused. -/
def deleteMdFromDisk (keys : PyStr → Bool) (refused : PyStr → Bool) : Caches Names :=
  { caches with mdFiles := caches.mdFiles.filterKeys fun key => !keys key || refused key }

/-- Cache an MD text and write it to its file. -/
def storeMd (key : PyStr) (entry : MdEntry) (write : MdWrite) : Caches Names :=
  { caches with groupMdCache := caches.groupMdCache.set key entry }.writeMdToDisk key entry write

/-- `_handle_group_md_event`; thread events come under the group's names. -/
def handleGroupMdEvent (channelId : PyStr) (deleted : Bool) (refused : PyStr → Bool) :
    Caches Names :=
  let moved := caches.invalidateGroupScope (splitThreadChannelId channelId).1
  let unchecked : Caches Names :=
    { moved with groupMdChecked := moved.groupMdChecked.erase channelId }
  if deleted then
    { unchecked with groupMdCache := unchecked.groupMdCache.erase channelId }.deleteMdFromDisk
      (· = channelId) refused
  else unchecked

/-- `_evict_group_membership_cache` -/
def evictGroupMembershipCache (groupNo : PyStr) : Caches Names :=
  { caches with
    groupMemberRosters := caches.groupMemberRosters.erase groupNo
    groupRobotMap := caches.groupRobotMap.erase groupNo
    groupCacheTimestamps := caches.groupCacheTimestamps.erase groupNo
    knownGroupIds := caches.knownGroupIds.filter (· ≠ groupNo)
    groupNames := caches.groupNames.erase groupNo
    userGroupIndex := caches.userGroupIndex.filterMapValues fun _ groups =>
      if groups.erase groupNo = ∅ then none else some (groups.erase groupNo) }

/-- The keys of a group that the caches hold something for. -/
def scopedKey (groupNo key : PyStr) : Bool :=
  key = groupNo || (inScope groupNo key &&
    ((caches.groupHistories.get? key).isSome || (caches.groupMdCache.get? key).isSome ||
      (caches.chatKind.get? key).isSome || (caches.cacheActivity.get? key).isSome ||
      decide (key ∈ caches.groupMdChecked)))

/-- `_evict_group_scope` -/
def evictGroupScope (groupNo : PyStr) (refused : PyStr → Bool) : Caches Names :=
  let left := (caches.invalidateGroupScope groupNo).evictGroupMembershipCache groupNo
  let gone := left.scopedKey groupNo
  { left with
    groupHistories := left.groupHistories.filterKeys fun key => !gone key
    groupMdCache := left.groupMdCache.filterKeys fun key => !gone key
    groupMdChecked := left.groupMdChecked.filter fun key => !gone key
    chatKind := left.chatKind.filterKeys fun key => !gone key
    cacheActivity := left.cacheActivity.filterKeys fun key => !gone key }.deleteMdFromDisk
      gone refused

/-- What a sweep drops of one idle channel. -/
def sweepChannel (channelId : PyStr) : Caches Names :=
  let swept : Caches Names :=
    { caches with
      groupHistories := caches.groupHistories.erase channelId
      groupMdCache := caches.groupMdCache.erase channelId
      groupMdChecked := caches.groupMdChecked.erase channelId
      chatKind := caches.chatKind.erase channelId
      groupCacheTimestamps := caches.groupCacheTimestamps.erase channelId
      spaceDmTargets := caches.spaceDmTargets.erase channelId }
  let members := if hasThreadSeparator channelId then swept
    else swept.evictGroupMembershipCache channelId
  { members with cacheActivity := members.cacheActivity.erase channelId }

/-- `_cleanup_caches` -/
def cleanupCaches (cutoff : Int) : Caches Names :=
  ((caches.cacheActivity.entries.filter fun entry => entry.2 < cutoff).map Prod.fst).foldl
    sweepChannel caches

/-- `_touch_cache` -/
def touchCache (channelId : PyStr) (now : Int) : Caches Names :=
  if channelId = [] then caches
  else { caches with cacheActivity := caches.cacheActivity.set channelId now }

/-- What a group frame leaves: its kind, its parent group and its activity. -/
def recordGroupFrame (channelId : PyStr) (kind : ChannelType) (now : Int) : Caches Names :=
  let parent := parentGroupNo channelId
  let kinded : Caches Names := { caches with chatKind := caches.chatKind.set channelId kind }
  let known : Caches Names :=
    if channelId ≠ [] ∧ parent ≠ [] then
      { kinded with knownGroupIds := kinded.knownGroupIds.insert parent }
    else kinded
  let touched := known.touchCache channelId now
  if channelId ≠ [] ∧ parent ≠ channelId then touched.touchCache parent now else touched

/-- The chat id of a direct message. -/
def directChatId (settings : Settings) (fromUid channelId : PyStr) : Except PyError PyStr :=
  if (extractSpaceId settings.digits channelId).isSome then .ok channelId
  else if settings.plainDmChatIds then .ok fromUid
  else settings.scopedDmChatId (extractBaseUid settings.digits fromUid)

/-- What a direct message leaves: its wire id, its kind and its activity. -/
def recordDirectFrame (chatId wireChatId : PyStr) (now : Int) : Caches Names :=
  { caches with
    spaceDmTargets := caches.spaceDmTargets.set chatId wireChatId
    chatKind := caches.chatKind.set chatId .DM }.touchCache chatId now

/-- `_record_history_entry` -/
def recordHistoryEntry (channelId : PyStr) (entry : HistoryEntry) (limit : Nat) : Caches Names :=
  let entries := (caches.groupHistories.get? channelId).getD [] ++ [entry]
  { caches with
    groupHistories := caches.groupHistories.set channelId (entries.drop (entries.length - limit)) }

/-- `_resolve_channel_type` -/
def resolveChannelType (chatId : PyStr) (explicit : Option ChannelType) : ChannelType :=
  match explicit with
  | some channelType => channelType
  | none => (caches.chatKind.get? chatId).getD (guessChannelType chatId)

/-- `_outbound_channel_id` -/
def outboundChannelId (digits : DigitChars) (chatId : PyStr) (channelType : ChannelType) : PyStr :=
  if channelType = .DM then
    (caches.spaceDmTargets.get? chatId).getD (extractBaseUid digits chatId)
  else chatId

end Caches

end OctoChannel.Chats

import OctoChannel.Chats.ChannelIds
import OctoChannel.Foundation.Traced

/-! Who may read or write which chat (`permission.py`), and the ids that the management
tool accepts. -/

namespace OctoChannel.Tools

open Foundation Identity Chats

/-- `_MAX_RESOURCE_ID_CHARS` -/
def maxResourceIdChars : Nat := 64

/-- `^[A-Za-z0-9_-]{1,64}$` -/
def validResourceId (value : PyStr) : Bool :=
  1 ≤ value.length && value.length ≤ maxResourceIdChars && value.all fun point =>
    isAsciiAlnum point || point = ch '_' || point = ch '-'

/-- `_valid_target_channel_id` -/
def validTargetChannelId (channelId : PyStr) : ChannelType → Bool
  | .DM => true
  | .Group => validResourceId channelId
  | .CommunityTopic =>
    match partitionThread channelId with
    | none => false
    | some (groupId, shortId) => validResourceId groupId && validResourceId shortId

/-- `parse_target` -/
def parseTarget (target : PyStr) (knownGroupIds : List PyStr) : PyStr × ChannelType :=
  let grouped (channelId : PyStr) : PyStr × ChannelType :=
    (channelId, if hasThreadSeparator channelId then .CommunityTopic else .Group)
  if (py "group:").isPrefixOf target then grouped (target.drop 6)
  else if (py "channel:").isPrefixOf target then grouped (target.drop 8)
  else if (py "user:").isPrefixOf target then (target.drop 5, .DM)
  else
    let bare := if (py "octo:").isPrefixOf target then target.drop 5 else target
    if hasThreadSeparator bare then (bare, .CommunityTopic)
    else (bare, if bare ∈ knownGroupIds then .Group else .DM)

/-- A request to the Octo API on behalf of a tool call. -/
inductive ApiCall where
  | fetchBotGroups
  | getGroupInfo (groupNo : PyStr)
  | getGroupMembers (groupNo : PyStr)
  | searchSpaceMembers (keyword : Option PyStr) (limit : Int)
  | getChannelMessages (channelId : PyStr) (channelType : ChannelType) (limit : Int)
  | sendMessage (channelId : PyStr) (channelType : ChannelType) (content : PyStr)
      (mentionUids : Option (List PyStr)) (mentionAll : Bool) (replyMsgId : Option PyStr)
      (clientMsgNo onBehalfOf : PyStr)
  | getGroupMd (groupNo : PyStr)
  | updateGroupMd (groupNo content : PyStr)
  | createGroup (members : List PyStr) (creator : PyStr) (name : Option PyStr)
  | updateGroup (groupNo : PyStr) (name notice : Option PyStr)
  | addGroupMembers (groupNo : PyStr) (members : List PyStr)
  | removeGroupMembers (groupNo : PyStr) (members : List PyStr)
  | createThread (groupNo name : PyStr)
  | listThreads (groupNo : PyStr)
  | getThread (groupNo shortId : PyStr)
  | deleteThread (groupNo shortId : PyStr)
  | listThreadMembers (groupNo shortId : PyStr)
  | joinThread (groupNo shortId : PyStr)
  | leaveThread (groupNo shortId : PyStr)
  | getThreadMd (groupNo shortId : PyStr)
  | updateThreadMd (groupNo shortId content : PyStr)
  | getVoiceContext
  | updateVoiceContext (content : PyStr)
  | deleteVoiceContext
  deriving DecidableEq

/-- What a tool call issues: the member lookup of a permission check, or its own request. -/
inductive Issued where
  | membership (groupNo : PyStr)
  | request (call : ApiCall)
  deriving DecidableEq

/-- The member lookup of the server: the uids of a roster, `none` where it raises. -/
abbrev Rosters := PyStr → Option (List PyStr)

/-- A step of a tool call; an error is the text that it ends with. -/
abbrev ToolStep := Traced Issued PyStr

/-- `PermissionResult`, and the uids of the roster that was looked up for it. -/
structure PermissionResult where
  allowed : Bool
  reason : PyStr
  roster : Option (List PyStr)
  deriving DecidableEq

def PermissionResult.deny (reason : String) : PermissionResult := ⟨false, py reason, none⟩

def PermissionResult.allow : PermissionResult := ⟨true, [], none⟩

/-- `result.reason or "permission denied"` -/
def PermissionResult.denial (permission : PermissionResult) : PyStr :=
  if permission.reason = [] then py "permission denied" else permission.reason

/-- `{m.uid for m in members if m.uid}` -/
def memberUids (members : List PyStr) : List PyStr := members.filter (· ≠ [])

/-- `_check_group_membership` -/
def checkGroupMembership (rosters : Rosters) (requesterUid groupNo : PyStr)
    (deniedReason : String) : ToolStep PermissionResult := do
  .emit (.membership groupNo)
  match rosters groupNo with
  | none => pure (.deny "Group member lookup failed")
  | some members =>
    let uids := memberUids members
    if requesterUid ∈ uids then pure ⟨true, [], some uids⟩
    else pure ⟨false, py deniedReason, some uids⟩

/-- `check_permission` -/
def checkPermission (rosters : Rosters) (requesterUid channelId : PyStr)
    (channelType : ChannelType) (ownerUid : PyStr) : ToolStep PermissionResult :=
  if requesterUid = [] then pure (.deny "Unable to identify requester")
  else
    match channelType with
    | .DM =>
      if ownerUid ≠ [] ∧ requesterUid = ownerUid then pure .allow
      else if channelId ≠ requesterUid then
        pure (.deny "Not allowed to query another user's DM with the bot")
      else pure .allow
    | .Group =>
      checkGroupMembership rosters requesterUid channelId "You are not in this group; access denied"
    | .CommunityTopic =>
      let groupNo := parentGroupNo channelId
      if groupNo = [] then pure (.deny "Invalid thread channel ID")
      else checkGroupMembership rosters requesterUid groupNo
        "You are not in this group; thread access denied"

/-- The uid is on the roster that a lookup of the group has returned. -/
def Listed (rosters : Rosters) (done : List Issued) (groupNo uid : PyStr) : Prop :=
  Issued.membership groupNo ∈ done ∧ ∃ members, rosters groupNo = some members ∧
    uid ∈ memberUids members

/-- The owner is known, and made the request. -/
def ByOwner (ownerUid requesterUid : PyStr) : Prop := ownerUid ≠ [] ∧ requesterUid = ownerUid

instance (ownerUid requesterUid : PyStr) : Decidable (ByOwner ownerUid requesterUid) :=
  inferInstanceAs (Decidable (_ ∧ _))

/-- The group whose roster decides about a chat that is no direct message. -/
def chatGroup? (channelId : PyStr) : ChannelType → Option PyStr
  | .DM => none
  | .Group => some channelId
  | .CommunityTopic => some (parentGroupNo channelId)

variable {rosters : Rosters} {requesterUid groupNo channelId ownerUid : PyStr}
  {channelType : ChannelType} {permission : PermissionResult}

/-- What a permission that was granted rests on, after the events of its check. -/
structure Granted (rosters : Rosters) (requesterUid channelId : PyStr) (channelType : ChannelType)
    (ownerUid : PyStr) (done : List Issued) (permission : PermissionResult) : Prop where
  listed : permission.allowed = true → ∀ groupNo, chatGroup? channelId channelType = some groupNo →
    Listed rosters done groupNo requesterUid
  direct : permission.allowed = true → channelType = .DM →
    ByOwner ownerUid requesterUid ∨ channelId = requesterUid
  roster : ∀ uids, permission.roster = some uids → ∀ groupNo,
    chatGroup? channelId channelType = some groupNo →
    ∃ members, rosters groupNo = some members ∧ uids = memberUids members

theorem granted_deny (reason : String) (done : List Issued) :
    Granted rosters requesterUid channelId channelType ownerUid done (.deny reason) where
  listed := nofun
  direct := nofun
  roster := nofun

theorem checkGroupMembership_granted (rosters : Rosters) (requesterUid ownerUid : PyStr)
    (deniedReason : String) (group : chatGroup? channelId channelType = some groupNo) :
    ∃ permission, checkGroupMembership rosters requesterUid groupNo deniedReason =
        ⟨[.membership groupNo], .ok permission⟩ ∧
      Granted rosters requesterUid channelId channelType ownerUid [.membership groupNo] permission ∧
      (permission.allowed = true ↔
        ∃ members, rosters groupNo = some members ∧ requesterUid ∈ memberUids members) := by
  have noDirect : channelType ≠ .DM := by
    intro direct
    subst direct
    cases group
  unfold checkGroupMembership
  cases found : rosters groupNo with
  | none =>
    refine ⟨.deny "Group member lookup failed", rfl, granted_deny _ _, nofun, ?_⟩
    rintro ⟨_, none, _⟩
    cases none
  | some members =>
    have same : ∀ other, chatGroup? channelId channelType = some other → other = groupNo :=
      fun other named => Option.some.inj (named.symm.trans group)
    by_cases member : requesterUid ∈ memberUids members
    · refine ⟨⟨true, [], some (memberUids members)⟩, by simp only [if_pos member]; rfl,
        ⟨?_, ?_, ?_⟩, fun _ => ⟨members, rfl, member⟩, fun _ => rfl⟩
      · intro _ other named
        cases same other named
        exact ⟨List.mem_cons_self .., members, found, member⟩
      · exact fun _ direct => absurd direct noDirect
      · intro uids given other named
        cases given
        cases same other named
        exact ⟨members, found, rfl⟩
    · refine ⟨⟨false, py deniedReason, some (memberUids members)⟩, by simp only [if_neg member]; rfl,
        ⟨nofun, nofun, ?_⟩, nofun, ?_⟩
      · intro uids given other named
        cases given
        cases same other named
        exact ⟨members, found, rfl⟩
      · rintro ⟨_, given, present⟩
        cases given
        exact absurd present member

/-- A permission check always answers, and what it grants rests on its own lookup. -/
theorem checkPermission_granted (rosters : Rosters) (requesterUid channelId : PyStr)
    (channelType : ChannelType) (ownerUid : PyStr) :
    ∃ permission done,
      checkPermission rosters requesterUid channelId channelType ownerUid =
        ⟨done, .ok permission⟩ ∧
      (∀ issued ∈ done, ∃ groupNo, issued = .membership groupNo) ∧
      Granted rosters requesterUid channelId channelType ownerUid done permission := by
  unfold checkPermission
  by_cases unknown : requesterUid = []
  · exact ⟨.deny "Unable to identify requester", [], by rw [if_pos unknown]; rfl, nofun,
      granted_deny _ _⟩
  · rw [if_neg unknown]
    cases channelType with
    | DM =>
      dsimp only
      by_cases owner : ownerUid ≠ [] ∧ requesterUid = ownerUid
      · exact ⟨.allow, [], by rw [if_pos owner]; rfl, nofun, nofun, fun _ _ => .inl owner, nofun⟩
      · by_cases other : channelId ≠ requesterUid
        · exact ⟨.deny "Not allowed to query another user's DM with the bot", [],
            by rw [if_neg owner, if_pos other]; rfl, nofun, granted_deny _ _⟩
        · exact ⟨.allow, [], by rw [if_neg owner, if_neg other]; rfl, nofun, nofun,
            fun _ _ => .inr (not_not.mp other), nofun⟩
    | Group =>
      obtain ⟨permission, checked, granted, _⟩ := checkGroupMembership_granted rosters requesterUid
        ownerUid "You are not in this group; access denied" (rfl : chatGroup? channelId .Group = _)
      exact ⟨permission, _, checked, by simp, granted⟩
    | CommunityTopic =>
      dsimp only
      by_cases bare : parentGroupNo channelId = []
      · exact ⟨.deny "Invalid thread channel ID", [], by rw [if_pos bare]; rfl, nofun,
          granted_deny _ _⟩
      · obtain ⟨permission, checked, granted, _⟩ := checkGroupMembership_granted rosters
          requesterUid ownerUid "You are not in this group; thread access denied"
          (rfl : chatGroup? channelId .CommunityTopic = _)
        exact ⟨permission, _, by rw [if_neg bare]; exact checked, by simp, granted⟩

/-- A thread is checked by the group before the first separator of its id. -/
theorem checkPermission_topic (rosters : Rosters) (ownerUid : PyStr) (known : requesterUid ≠ [])
    (named : parentGroupNo channelId ≠ []) :
    ∃ permission,
      checkPermission rosters requesterUid channelId .CommunityTopic ownerUid =
        ⟨[.membership (parentGroupNo channelId)], .ok permission⟩ ∧
      (permission.allowed = true ↔ ∃ members, rosters (parentGroupNo channelId) = some members ∧
        requesterUid ∈ memberUids members) := by
  obtain ⟨permission, checked, _, allowed⟩ := checkGroupMembership_granted rosters requesterUid
    ownerUid "You are not in this group; thread access denied"
    (rfl : chatGroup? channelId .CommunityTopic = _)
  refine ⟨permission, ?_, allowed⟩
  unfold checkPermission
  rw [if_neg known]
  dsimp only
  rw [if_neg named]
  exact checked

end OctoChannel.Tools

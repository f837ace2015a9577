import OctoChannel.Mentions.Conversion
import OctoChannel.Tools.Permission

namespace OctoChannel.Tools

open Foundation Identity Chats

/-- `ACTIONS` -/
inductive Action where
  | listGroups
  | groupInfo
  | groupMembers
  | searchMembers
  | readMessages
  | searchSharedGroups
  | sendMessage
  | groupMdRead
  | groupMdUpdate
  | createGroup
  | updateGroup
  | addMembers
  | removeMembers
  | createThread
  | listThreads
  | getThread
  | deleteThread
  | listThreadMembers
  | joinThread
  | leaveThread
  | threadMdRead
  | threadMdUpdate
  | voiceContextRead
  | voiceContextUpdate
  | voiceContextDelete
  deriving DecidableEq

namespace Action

def name : Action → String
  | listGroups => "list-groups"
  | groupInfo => "group-info"
  | groupMembers => "group-members"
  | searchMembers => "search-members"
  | readMessages => "read-messages"
  | searchSharedGroups => "search-shared-groups"
  | sendMessage => "send-message"
  | groupMdRead => "group-md-read"
  | groupMdUpdate => "group-md-update"
  | createGroup => "create-group"
  | updateGroup => "update-group"
  | addMembers => "add-members"
  | removeMembers => "remove-members"
  | createThread => "create-thread"
  | listThreads => "list-threads"
  | getThread => "get-thread"
  | deleteThread => "delete-thread"
  | listThreadMembers => "list-thread-members"
  | joinThread => "join-thread"
  | leaveThread => "leave-thread"
  | threadMdRead => "thread-md-read"
  | threadMdUpdate => "thread-md-update"
  | voiceContextRead => "voice-context-read"
  | voiceContextUpdate => "voice-context-update"
  | voiceContextDelete => "voice-context-delete"

def all : List Action :=
  [listGroups, groupInfo, groupMembers, searchMembers, readMessages, searchSharedGroups,
    sendMessage, groupMdRead, groupMdUpdate, createGroup, updateGroup, addMembers, removeMembers,
    createThread, listThreads, getThread, deleteThread, listThreadMembers, joinThread, leaveThread,
    threadMdRead, threadMdUpdate, voiceContextRead, voiceContextUpdate, voiceContextDelete]

def ofName? (text : PyStr) : Option Action := all.find? fun action => py action.name = text

/-- `OWNER_ONLY_ACTIONS` -/
def ownerOnly : Action → Bool
  | listGroups | searchMembers | voiceContextRead | createGroup | updateGroup | addMembers
  | removeMembers | groupMdUpdate | createThread | deleteThread | joinThread | leaveThread
  | threadMdUpdate | voiceContextUpdate | voiceContextDelete => true
  | _ => false

/-- `GROUP_READ_ACTIONS` -/
def groupRead : Action → Bool
  | groupInfo | groupMembers | groupMdRead | listThreads => true
  | _ => false

/-- `THREAD_READ_ACTIONS` -/
def threadRead : Action → Bool
  | getThread | listThreadMembers | threadMdRead => true
  | _ => false

end Action

/-- The fields that the tool reads of its arguments. -/
inductive Field where
  | action
  | groupId
  | target
  | limit
  | content
  | replyToMessageId
  | mentionUids
  | mentionAll
  | keyword
  | members
  | name
  | notice
  | creator
  | threadName
  | shortId
  deriving DecidableEq

def Field.key : Field → String
  | action => "action"
  | groupId => "group_id"
  | target => "target"
  | limit => "limit"
  | content => "content"
  | replyToMessageId => "reply_to_message_id"
  | mentionUids => "mention_uids"
  | mentionAll => "mention_all"
  | keyword => "keyword"
  | members => "members"
  | name => "name"
  | notice => "notice"
  | creator => "creator"
  | threadName => "thread_name"
  | shortId => "short_id"

/-- `args`, which the model chooses. -/
abbrev Args := Dict PyStr Json

namespace Args

variable (args : Args)

def has (field : Field) : Bool := (args.get? (py field.key)).isSome

/-- `args.get(field)` -/
def get (field : Field) : Json := (args.get? (py field.key)).getD .null

/-- A field that holds a text. -/
def text? (field : Field) : Option PyStr :=
  match args.get field with
  | .str text => some text
  | _ => none

def text (field : Field) : PyStr := (args.text? field).getD []

/-- The texts of a field that holds a list. -/
def texts? (field : Field) : Option (List PyStr) :=
  match args.get field with
  | .arr items => some (items.filterMap fun item => match item with
    | .str text => some text
    | _ => none)
  | _ => none

/-- `int(args.get("limit") or default)` of a checked limit. -/
def limitOr (default : Int) : Int :=
  match args.get .limit with
  | .int value => if value = 0 then default else value
  | _ => default

/-- `_bounded_string` -/
def boundedString (minimum maximum : Nat) : Json → Bool
  | .str text => minimum ≤ text.length && text.length ≤ maximum
  | _ => false

def stringBounds : List (Field × Nat × Nat) :=
  [(.groupId, 1, maxResourceIdChars), (.target, 1, 192), (.content, 0, 20000),
    (.replyToMessageId, 1, 64), (.keyword, 0, 256), (.name, 0, 256), (.notice, 0, 4096),
    (.creator, 1, maxResourceIdChars), (.threadName, 1, 256), (.shortId, 1, maxResourceIdChars)]

def listBounds : List (Field × Nat × Nat) := [(.mentionUids, 0, 64), (.members, 1, 100)]

def boundedList (minimum maximum : Nat) : Json → Bool
  | .arr items => minimum ≤ items.length && items.length ≤ maximum &&
      items.all (boundedString 1 maxResourceIdChars)
  | _ => false

/-- `limit` is an integer between 1 and `_MAX_PAGE_LIMIT`. -/
def boundedLimit : Json → Bool
  | .int value => 1 ≤ value && value ≤ 100
  | _ => false

def isBool : Json → Bool
  | .bool _ => true
  | _ => false

def invalid (field : Field) : PyStr := py "invalid " ++ py field.key

/-- `_validate_management_args` -/
def validateManagementArgs : Option PyStr :=
  match stringBounds.find? fun bound =>
      args.has bound.1 && !boundedString bound.2.1 bound.2.2 (args.get bound.1) with
  | some bound => some (invalid bound.1)
  | none =>
    if args.has .limit && !boundedLimit (args.get .limit) then some (invalid .limit)
    else if args.has .mentionAll && !isBool (args.get .mentionAll) then some (invalid .mentionAll)
    else
      (listBounds.find? fun bound =>
        args.has bound.1 && !boundedList bound.2.1 bound.2.2 (args.get bound.1)).map
          fun bound => invalid bound.1

/-- `_require` -/
def require (fields : List Field) : ToolStep Unit :=
  let missing := fields.filter fun field => !Mentions.truthy (args.get field)
  if missing = [] then pure ()
  else .fail (py "missing required argument(s): " ++
    (py ", ").intercalate (missing.map fun field => py field.key))

end Args

/-- The identity runtime that owns the conversation, as far as the tool reads it. -/
structure Tool where
  apiUrl : PyStr
  botToken : PyStr
  /-- `_owner_uid`; empty when it is unknown. -/
  ownerUid : PyStr
  knownGroupIds : List PyStr
  onBehalfOf : PyStr
  findSharedGroups : PyStr → List (PyStr × PyStr)

/-- What a tool call finds: the runtime of the trusted conversation, its trusted requester,
the member lookups of the server, a fresh message number and `repr`. -/
structure Situation where
  runtime : Option Tool
  requester : Option PyStr
  rosters : Rosters
  clientMsgNo : PyStr
  repr : Json → PyStr

/-- What a tool call ends with, unless it ends with an error. -/
inductive Handled where
  /-- `_ok` of what the request returned -/
  | requested
  | sharedGroups (uid : PyStr) (groups : List (PyStr × PyStr))
  deriving DecidableEq

section

variable (situation : Situation) (tool : Tool) (requesterUid : PyStr) (args : Args)

/-- A permission check that ends the call when it denies. -/
def authorize (channelId : PyStr) (channelType : ChannelType) : ToolStep PermissionResult := do
  let permission ← checkPermission situation.rosters requesterUid channelId channelType
    tool.ownerUid
  if permission.allowed then pure permission else .fail permission.denial

/-- `_authorize_group_or_thread_read` -/
def authorizeGroupOrThreadRead (action : Action) : ToolStep Unit :=
  let groupId := args.text .groupId
  let shortId := args.text .shortId
  if !(action.groupRead || action.threadRead) then pure ()
  else if groupId = [] then pure ()
  else if action.threadRead then
    if shortId = [] then pure ()
    else do
      let _ ← authorize situation tool requesterUid (threadKey groupId shortId) .CommunityTopic
      pure ()
  else do
    let _ ← authorize situation tool requesterUid groupId .Group
    pure ()

/-- A request of the tool. -/
def request (call : ApiCall) : ToolStep Handled := do
  .emit (.request call)
  pure .requested

/-- The target of a message action, with the permission to reach it. -/
def authorizeTarget : ToolStep (PyStr × ChannelType × PermissionResult) :=
  let (channelId, channelType) := parseTarget (args.text .target) tool.knownGroupIds
  if !validTargetChannelId channelId channelType then .fail (py "invalid target channel id")
  else do
    let permission ← authorize situation tool requesterUid channelId channelType
    pure (channelId, channelType, permission)

/-- `read-messages` -/
def readMessages : ToolStep Handled := do
  args.require [.target]
  let (channelId, channelType, _) ← authorizeTarget situation tool requesterUid args
  request (.getChannelMessages channelId channelType (max 1 (min (args.limitOr 20) 100)))

/-- `send-message` -/
def sendMessage : ToolStep Handled := do
  args.require [.target, .content]
  let (channelId, channelType, permission) ← authorizeTarget situation tool requesterUid args
  let rawMentionUids := args.texts? .mentionUids
  let mentionAll := Mentions.truthy (args.get .mentionAll)
  let mentionsRequested := mentionAll || (rawMentionUids.any fun uids => uids ≠ [])
  if channelType ≠ .DM ∧ mentionsRequested = true ∧ permission.roster = none then
    .fail (py "Unable to verify target members for requested mentions")
  else
    let listed : Option (List PyStr) := rawMentionUids.map fun uids =>
      uids.filter fun uid => permission.roster.any (uid ∈ ·)
    let mentionUids := if listed = some [] ∨ channelType = .DM then none else listed
    request (.sendMessage channelId channelType (args.text .content) mentionUids
      (mentionAll && channelType ≠ .DM) (args.text? .replyToMessageId) situation.clientMsgNo
      tool.onBehalfOf)

/-- `search-shared-groups`, which asks no server. -/
def searchSharedGroups : ToolStep Handled :=
  let target := strip (args.text .target)
  let subject := if target = [] then requesterUid else target
  if subject ≠ requesterUid ∧ ¬ ByOwner tool.ownerUid requesterUid then
    .fail (py "only the bot owner may query someone else's shared groups")
  else pure (.sharedGroups subject (tool.findSharedGroups subject))

/-- The part of the handler behind the gates of an action. -/
def perform (action : Action) : ToolStep Handled :=
  let groupId := args.text .groupId
  let shortId := args.text .shortId
  let content := args.text .content
  match action with
  | .listGroups => request .fetchBotGroups
  | .groupInfo => do
    args.require [.groupId]
    request (.getGroupInfo groupId)
  | .groupMembers => do
    args.require [.groupId]
    request (.getGroupMembers groupId)
  | .searchMembers => request (.searchSpaceMembers (args.text? .keyword) (args.limitOr 50))
  | .searchSharedGroups => searchSharedGroups tool requesterUid args
  | .readMessages => readMessages situation tool requesterUid args
  | .sendMessage => sendMessage situation tool requesterUid args
  | .groupMdRead => do
    args.require [.groupId]
    request (.getGroupMd groupId)
  | .groupMdUpdate => do
    args.require [.groupId, .content]
    request (.updateGroupMd groupId content)
  | .createGroup => do
    args.require [.members, .creator]
    request (.createGroup ((args.texts? .members).getD []) (args.text .creator)
      (args.text? .name))
  | .updateGroup => do
    args.require [.groupId]
    if args.text? .name = none ∧ args.text? .notice = none then
      .fail (py "update-group requires at least one of: name, notice")
    else request (.updateGroup groupId (args.text? .name) (args.text? .notice))
  | .addMembers => do
    args.require [.groupId, .members]
    request (.addGroupMembers groupId ((args.texts? .members).getD []))
  | .removeMembers => do
    args.require [.groupId, .members]
    request (.removeGroupMembers groupId ((args.texts? .members).getD []))
  | .createThread => do
    args.require [.groupId, .threadName]
    request (.createThread groupId (args.text .threadName))
  | .listThreads => do
    args.require [.groupId]
    request (.listThreads groupId)
  | .getThread => do
    args.require [.groupId, .shortId]
    request (.getThread groupId shortId)
  | .deleteThread => do
    args.require [.groupId, .shortId]
    request (.deleteThread groupId shortId)
  | .listThreadMembers => do
    args.require [.groupId, .shortId]
    request (.listThreadMembers groupId shortId)
  | .joinThread => do
    args.require [.groupId, .shortId]
    request (.joinThread groupId shortId)
  | .leaveThread => do
    args.require [.groupId, .shortId]
    request (.leaveThread groupId shortId)
  | .threadMdRead => do
    args.require [.groupId, .shortId]
    request (.getThreadMd groupId shortId)
  | .threadMdUpdate => do
    args.require [.groupId, .shortId, .content]
    request (.updateThreadMd groupId shortId content)
  | .voiceContextRead => request .getVoiceContext
  | .voiceContextUpdate => do
    args.require [.content]
    request (.updateVoiceContext content)
  | .voiceContextDelete => request .deleteVoiceContext

/-- A gate of the handler. -/
def ensure (holds : Bool) (error : PyStr) : Except PyStr Unit :=
  if holds then .ok () else .error error

/-- The value of a gate, or its error. -/
def demand {Value : Type} (value : Option Value) (error : PyStr) : Except PyStr Value :=
  match value with
  | none => .error error
  | some value => .ok value

/-- `value is not None and not _valid_resource_id(value)` -/
def validIdField (field : Field) : Bool :=
  match args.get field with
  | .null => true
  | .str text => validResourceId text
  | _ => false

/-- The error for an action that there is none of. -/
def unknownAction : PyStr :=
  py "unknown action: " ++ situation.repr (args.get .action) ++ py " (valid: " ++
    situation.repr (.arr ((Action.all.map Action.name).mergeSort.map fun name =>
      .str (py name))) ++ py ")"

def notRunning : PyStr :=
  py "Octo adapter is not running in this process, or this conversation has no established Octo     identity route"

def notConfigured : PyStr := py "Octo adapter is not configured (missing api_url / bot_token)"

def untrusted (action : Action) : PyStr :=
  py "action '" ++ py action.name ++ py "' requires a trusted Octo session requester"

/-- `_require_owner` of a known requester. -/
def requireOwner (action : Action) : Except PyStr Unit :=
  ensure (ByOwner tool.ownerUid requesterUid) (py "action '" ++ py action.name ++
    py "' requires bot-owner privileges; requester " ++ situation.repr (.str requesterUid) ++
    py " is not the owner")

/-- The arguments, when their shape is that of the schema. -/
def checkArgs : Except PyStr Unit :=
  match args.validateManagementArgs with
  | some error => .error error
  | none => .ok ()

/-- The handler up to the first request: its action, runtime and trusted requester. -/
def prepare : Except PyStr (Action × Tool × PyStr) := do
  let action ← demand ((args.text? .action).bind Action.ofName?) (unknownAction situation args)
  checkArgs args
  let tool ← demand situation.runtime notRunning
  ensure (tool.apiUrl ≠ [] && tool.botToken ≠ []) notConfigured
  let requesterUid ← demand (situation.requester.filter (· ≠ [])) (untrusted action)
  ensure (validIdField args .groupId) (Args.invalid .groupId)
  ensure (validIdField args .shortId) (Args.invalid .shortId)
  (if action.ownerOnly then requireOwner situation tool requesterUid action else .ok ())
  pure (action, tool, requesterUid)

/-- `octo_management_handler` -/
def octoManagementHandler : ToolStep Handled := do
  let (action, tool, requesterUid) ← .ofExcept (prepare situation args)
  authorizeGroupOrThreadRead situation tool requesterUid args action
  perform situation tool requesterUid args action

end

end OctoChannel.Tools

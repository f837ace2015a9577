import OctoChannel.Foundation.JsonSpaced
import OctoChannel.Foundation.Runs
import OctoChannel.Identity.Ids
import OctoChannel.Inbound.Labels
import OctoChannel.Mentions.Conversion

/-! The history of a group: the window of messages that did not address the bot, and the block
of context that a turn starts with. -/

namespace OctoChannel.Inbound.History

open Foundation Identity Mentions Chats

/-- What a message leaves in the history. The time of a message is written and never read. -/
structure HistoryRecord where
  sender : PyStr
  body : PyStr
  mention : MentionArg

abbrev Histories := Dict PyStr (List HistoryRecord)

/-- The last `limit` items. -/
def lastOf {Item : Type} (limit : Nat) (items : List Item) : List Item :=
  items.drop (items.length - limit)

/-- `items[-limit:]`: where `limit` is zero this is everything. -/
def sliceLast {Item : Type} (limit : Nat) (items : List Item) : List Item :=
  if limit = 0 then items else lastOf limit items

/-- `_record_history_entry` -/
def recordHistoryEntry (limit : Nat) (histories : Histories) (channelId : PyStr)
    (record : HistoryRecord) : Histories :=
  histories.set channelId (lastOf limit ((histories.get? channelId).getD [] ++ [record]))

/-- A message summary of `get_channel_messages`. -/
structure Summary where
  fromUid : PyStr
  type : Json
  name : Json
  content : PyStr
  mention : MentionArg

variable (resolver : Resolver)

def placeholderLabels : List (MessageType × String) :=
  [(.Location, "[位置信息]"), (.Card, "[名片]"), (.MultipleForward, "[合并转发]")]

/-- `_resolve_api_message_placeholder` -/
def resolveApiMessagePlaceholder (msgType name : Json) : Except Fault PyStr :=
  match resolver.renderUrlFreeMediaPlaceholder msgType name with
  | .error fault => .error fault
  | .ok (some placeholder) => .ok placeholder
  | .ok none =>
    .ok (((placeholderLabels.find? fun label => label.1.equals msgType).map fun label =>
      py label.2).getD (py "[消息]"))

/-- The body of a summary: a label for media, the content where there is some, or another
label. -/
def summaryBody (summary : Summary) : Except Fault PyStr :=
  match resolver.renderUrlFreeMediaPlaceholder summary.type summary.name with
  | .error fault => .error fault
  | .ok (some placeholder) => .ok placeholder
  | .ok none =>
    if summary.content ≠ [] then .ok summary.content
    else resolveApiMessagePlaceholder resolver summary.type summary.name

/-- What building the block reads; `fetch` is `get_channel_messages` by channel, type and limit,
and its errors are logged. -/
structure Surroundings where
  words : WordChars
  resolver : Resolver
  historyLimit : Nat
  historyPromptTemplate : PyStr → Nat → PyStr
  httpSession : Bool
  rosters : Dict PyStr (Dict PyStr PyStr)
  fetch : PyStr → ChannelType → Nat → Option (List Summary)

variable (around : Surroundings)

/-- `history_channel_type` -/
def historyChannelType (channelId : PyStr) : ChannelType :=
  if hasThreadSeparator channelId then .CommunityTopic else .Group

def rosterFor (channelId : PyStr) : Dict PyStr PyStr :=
  (around.rosters.get? (parentGroupNo channelId)).getD .empty

/-- `f"{sender_name}({sender_uid})"`, unless the name is the uid. -/
def senderLabel (roster : Dict PyStr PyStr) (sender : PyStr) : PyStr :=
  let name := (roster.get? sender).getD sender
  if name ≠ sender then name ++ ch '(' :: sender ++ [ch ')'] else sender

/-- `{name: uid for uid, name in roster.items()}` -/
def scopedNameMap (roster : Dict PyStr PyStr) : Dict PyStr PyStr :=
  roster.entries.foldl (fun names member => names.set member.2 member.1) .empty

/-- The object that an entry becomes. -/
def formattedEntry (roster : Dict PyStr PyStr) (record : HistoryRecord) : Json :=
  .obj [(py "sender", .str (senderLabel roster record.sender)),
    (py "body", .str (convertContentForLlm around.words around.resolver.str record.body
      record.mention (some (scopedNameMap roster))))]

/-- `messages_json` -/
def messagesJson (channelId : PyStr) (shown : List HistoryRecord) : Json :=
  .arr (shown.map (formattedEntry around (rosterFor around channelId)))

def historyHeader (count : Nat) : PyStr :=
  py "[Group Chat History (" ++ Json.printNat count ++ py " messages)]\n"

/-- What closes the block. -/
def historyEnd : PyStr := py "\n---\n"

/-- `DEFAULT_HISTORY_PROMPT_TEMPLATE.format` -/
def defaultHistoryPromptTemplate (messages : PyStr) (count : Nat) : PyStr :=
  historyHeader count ++ messages ++ historyEnd

/-- The uid that a label ends with. -/
def labelUid (label : PyStr) : PyStr :=
  if label.getLast? = some (ch ')') then
    (label.dropLast.reverse.takeWhile (· ≠ ch '(')).reverse
  else label

/-- The record of a message that the API gave. -/
structure ApiRecord (resolver : Resolver) (summary : Summary) (record : HistoryRecord) : Prop where
  sender : record.sender = summary.fromUid
  body : summaryBody resolver summary = .ok record.body
  mention : record.mention = summary.mention

/-- The messages of a channel as the API was asked for them and gave them: those of others, the
last ones within the limit, in its order. -/
structure Fetched (channelId botUid : PyStr) (shown : List HistoryRecord) : Prop where
  session : around.httpSession = true
  answered : ∃ summaries records,
    around.fetch channelId (historyChannelType channelId) (min around.historyLimit 100) =
      some summaries ∧
    List.Forall₂ (ApiRecord around.resolver)
      (summaries.filter fun summary => summary.fromUid ≠ botUid) records ∧
    shown = sliceLast around.historyLimit records

private theorem mem_of_mem_sliceLast {Item : Type} {limit : Nat} {item : Item} {items : List Item}
    (member : item ∈ sliceLast limit items) : item ∈ items := by
  unfold sliceLast at member
  split_ifs at member
  · exact member
  · exact List.mem_of_mem_drop member

private theorem senders_of_apiRecords {summaries : List Summary} {records : List HistoryRecord}
    (read : List.Forall₂ (ApiRecord resolver) summaries records) :
    records.map HistoryRecord.sender = summaries.map Summary.fromUid := by
  induction read with
  | nil => rfl
  | cons here _ ih => rw [List.map_cons, List.map_cons, here.sender, ih]

/-- No message of the bot itself is among them. -/
theorem Fetched.others {channelId botUid : PyStr} {shown : List HistoryRecord}
    (fetched : Fetched around channelId botUid shown) :
    ∀ record ∈ shown, record.sender ≠ botUid := by
  obtain ⟨summaries, records, -, read, rfl⟩ := fetched.answered
  intro record member
  have sent : record.sender ∈ records.map HistoryRecord.sender :=
    List.mem_map_of_mem (mem_of_mem_sliceLast member)
  rw [senders_of_apiRecords around.resolver read] at sent
  obtain ⟨summary, given, same⟩ := List.mem_map.mp sent
  rw [← same]
  simpa using (List.mem_filter.mp given).2

/-- What a block of context that is built with the default template says. -/
structure Shows (runtime : Json.Runtime) (channelId : PyStr) (shown : List HistoryRecord)
    (context : PyStr) : Prop where
  /-- One block of JSON, which reads back as the entries with their labels. -/
  block : ∃ block, context = defaultHistoryPromptTemplate block shown.length ∧
    Json.loads runtime block = .ok (messagesJson around channelId shown)
  /-- No text inside it looks like its end. -/
  closed : ∀ front back, context = front ++ historyEnd ++ back → back = []
  /-- Every label tells the uid of the sender. -/
  labelled : ∀ record ∈ shown, ch '(' ∉ record.sender → ch ')' ∉ record.sender →
    labelUid (senderLabel (rosterFor around channelId) record.sender) = record.sender

end OctoChannel.Inbound.History

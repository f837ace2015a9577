import OctoChannel.Foundation.Marks
import OctoChannel.Mentions.Envelopes

/-! Structured mentions on the way out: an agent's `@[uid:name]` becomes `@name` with an
entity in the sidecar, in one text and over the blocks of a RichText message. -/

namespace OctoChannel.Mentions

open Foundation Identity

variable (words : WordChars)

/-- `MentionEntity` as it is sent: the tag is the uid, and the range counts UTF-16 units. -/
abbrev SidecarEntity := Mark PyStr

/-- `valid_uids is None or uid in valid_uids` -/
def uidAllowed (validUids : Option (List PyStr)) (uid : PyStr) : Bool :=
  validUids.all fun valid => uid ∈ valid

structure ConvertedMentions where
  content : PyStr
  entities : List SidecarEntity
  uids : List PyStr

/-- The loop of `convert_structured_mentions` behind the cursor; `runningLen` counts the
units that are out already. -/
def convertFrom (text : PyStr) (validUids : Option (List PyStr)) :
    Nat → Nat → List StructuredMention → ConvertedMentions
  | cursor, _, [] => ⟨text.drop cursor, [], []⟩
  | cursor, runningLen, mention :: rest =>
    let between := (text.take mention.offset).drop cursor
    let replacement := ch '@' :: mention.name
    let offset := runningLen + (utf16 between).length
    let later := convertFrom text validUids (mention.offset + mention.length)
      (offset + (utf16 replacement).length) rest
    let content := between ++ replacement ++ later.content
    if uidAllowed validUids mention.uid then
      ⟨content, ⟨mention.uid, offset, (utf16 replacement).length⟩ :: later.entities,
        mention.uid :: later.uids⟩
    else ⟨content, later.entities, later.uids⟩

def sortedMentions (mentions : List StructuredMention) : List StructuredMention :=
  mentions.insertionSort fun first second => first.offset ≤ second.offset

/-- `convert_structured_mentions` -/
def convertStructuredMentions (text : PyStr) (mentions : List StructuredMention)
    (validUids : Option (List PyStr)) : ConvertedMentions :=
  convertFrom text validUids 0 0 (sortedMentions mentions)

/-- What `_prepare_outbound_mentions` returns: without tokens there is no sidecar. -/
structure PreparedText where
  content : PyStr
  entities : Option (List SidecarEntity)
  uids : Option (List PyStr)

/-- `_prepare_outbound_mentions`; `roster` is what the allow-list is when it is asked for. -/
def prepareOutboundMentions (roster : List PyStr) (content : PyStr)
    (allowlist : Option (List PyStr)) : PreparedText :=
  match parseStructuredMentions words content with
  | [] => ⟨content, none, none⟩
  | structured =>
    let converted := convertStructuredMentions content structured (some (allowlist.getD roster))
    ⟨converted.content, some converted.entities, some converted.uids⟩

def maxBlocks : Nat := 50
def maxTextChars : Nat := 20000

def richTextImagePlaceholder : PyStr := py "[图片]"

structure ImageBlock where
  url : PyStr
  width : Nat
  height : Nat
  size : Nat
  name : PyStr

inductive RichTextBlock where
  | text (text : PyStr)
  | image (image : ImageBlock)

/-- What the block loop has put together so far. -/
structure Assembly where
  blocks : List RichTextBlock
  plainParts : List PyStr
  failedImages : Nat
  mentionUids : List PyStr
  mentionEntities : List SidecarEntity
  plainUtf16Length : Nat
  allowlist : Option (List PyStr)
  filteredMentions : Int

def Assembly.empty : Assembly := ⟨[], [], 0, [], [], 0, none, 0⟩

/-- What lies outside the loop: the members of the group, and how the upload of the image in
the block with this number ends. -/
structure Surroundings where
  roster : List PyStr
  upload : Nat → Json → Option ImageBlock

variable (outside : Surroundings)

/-- `if uid not in seen_mention_uids`, one uid after the other. -/
def addUids (seen uids : List PyStr) : List PyStr :=
  uids.foldl (fun seen uid => if uid ∈ seen then seen else seen ++ [uid]) seen

/-- A text block, its text checked. -/
def addText (assembly : Assembly) (text : PyStr) : Assembly :=
  let count := (parseStructuredMentions words text).length
  let allowlist :=
    if 0 < count ∧ assembly.allowlist = none then some outside.roster else assembly.allowlist
  let prepared := prepareOutboundMentions words outside.roster text allowlist
  { assembly with
    blocks := assembly.blocks ++ [.text prepared.content]
    plainParts := assembly.plainParts ++ [prepared.content]
    mentionUids := addUids assembly.mentionUids (prepared.uids.getD [])
    mentionEntities := assembly.mentionEntities ++ (prepared.entities.getD []).map fun entity =>
      { entity with offset := assembly.plainUtf16Length + entity.offset }
    plainUtf16Length := assembly.plainUtf16Length + (utf16 prepared.content).length
    allowlist := allowlist
    filteredMentions := assembly.filteredMentions + (count - (prepared.uids.getD []).length) }

/-- An image block: one that fails is left out of the message. -/
def addImage (assembly : Assembly) (uploaded : Option ImageBlock) : Assembly :=
  match uploaded with
  | some image =>
    { assembly with
      blocks := assembly.blocks ++ [.image image]
      plainParts := assembly.plainParts ++ [richTextImagePlaceholder]
      plainUtf16Length := assembly.plainUtf16Length + (utf16 richTextImagePlaceholder).length }
  | none => { assembly with failedImages := assembly.failedImages + 1 }

/-- A block as the loop reads it. -/
inductive RawBlock where
  | text (text : PyStr)
  | image (url : Json)

def readBlock : Json → Except PyError RawBlock
  | .obj members =>
    match Json.field (py "type") members with
    | .str kind =>
      if kind = py "text" then
        match Json.field (py "text") members with
        | .str text =>
          if text = [] ∨ maxTextChars < text.length then
            .error (.valueError "RichText text must be non-empty and bounded")
          else .ok (.text text)
        | _ => .error (.valueError "RichText text must be non-empty and bounded")
      else if kind = py "image" then .ok (.image (Json.field (py "url") members))
      else .error (.valueError "unsupported RichText block type")
    | _ => .error (.valueError "unsupported RichText block type")
  | _ => .error (.valueError "RichText blocks must be objects")

/-- One round of the loop. -/
def addBlock (number : Nat) (assembly : Assembly) (raw : Json) : Except PyError Assembly :=
  match readBlock raw with
  | .error error => .error error
  | .ok (.text text) => .ok (addText words outside assembly text)
  | .ok (.image url) => .ok (addImage assembly (outside.upload number url))

def addBlocks : Nat → Assembly → List Json → Except PyError Assembly
  | _, assembly, [] => .ok assembly
  | number, assembly, raw :: rest =>
    match addBlock words outside number assembly raw with
    | .error error => .error error
    | .ok next => addBlocks (number + 1) next rest

/-- The arguments of `send_rich_text_message` that the loop decides. -/
structure RichTextMessage where
  blocks : List RichTextBlock
  plain : PyStr
  mentionUids : Option (List PyStr)
  mentionEntities : Option (List SidecarEntity)

def nonemptyList {Item : Type} (items : List Item) : Option (List Item) :=
  if items.isEmpty then none else some items

/-- `octo_send_rich_text_handler` up to the request; `none` is the error it returns when
there is nothing to send. -/
def octoSendRichText (rawBlocks : Json) : Except PyError (Option RichTextMessage) :=
  match rawBlocks with
  | .arr raw =>
    if raw = [] ∨ maxBlocks < raw.length then .ok none
    else
      match addBlocks words outside 0 .empty raw with
      | .error error => .error error
      | .ok assembly =>
        if assembly.blocks.isEmpty then .ok none
        else
          .ok (some ⟨assembly.blocks, assembly.plainParts.flatten,
            nonemptyList assembly.mentionUids, nonemptyList assembly.mentionEntities⟩)
  | _ => .ok none

end OctoChannel.Mentions

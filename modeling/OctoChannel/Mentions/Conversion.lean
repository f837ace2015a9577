import OctoChannel.Mentions.Patterns
import OctoChannel.Foundation.Json

/-! `convert_content_for_llm`: mentions of a message become envelopes, by the ranges of the
sidecar where it has any, else by the names of the members or the order of the uids. -/

namespace OctoChannel.Mentions

open Foundation Identity

def maxMentionsPerMessage : Nat := 64

/-- Truth of a value in a condition. -/
def truthy : Json → Bool
  | .null => false
  | .bool value => value
  | .int value => value ≠ 0
  | .float text => text ≠ "0.0" && text ≠ "-0.0"
  | .str text => text ≠ []
  | .arr items => !items.isEmpty
  | .obj members => !members.isEmpty

/-- The fields are what the wire holds; offset and length count UTF-16 units. -/
structure MentionEntity where
  uid : Json
  offset : Json
  length : Json

structure MentionPayload where
  uids : Option (List Json)
  entities : Option (List MentionEntity)

/-- What a caller passes as the mention of a message. -/
inductive MentionArg where
  | payload (payload : MentionPayload)
  | raw (value : Json)

/-- An entry of `entities` with all three fields. -/
def rawEntity : Json → Option MentionEntity
  | .obj members => do
    let uid ← Dict.lookup (py "uid") members
    let offset ← Dict.lookup (py "offset") members
    let length ← Dict.lookup (py "length") members
    some ⟨uid, offset, length⟩
  | _ => none

/-- `_coerce_mention` -/
def coerceMention : MentionArg → Option MentionPayload
  | .payload payload => some payload
  | .raw (.obj members) =>
    some {
      uids :=
        match Json.field (py "uids") members with
        | .arr uids => some uids
        | _ => none
      entities :=
        match Json.field (py "entities") members with
        | .arr items => some ((items.take maxMentionsPerMessage).filterMap rawEntity)
        | _ => none }
  | .raw _ => none

/-- Both ends of a valid entity, in units. -/
def validUnits (entity : MentionEntity) : Option (Nat × Nat) :=
  match entity.offset, entity.length with
  | .int offset, .int length =>
    if truthy entity.uid && 0 ≤ offset && 0 < length then
      some (offset.toNat, (offset + length).toNat)
    else none
  | _, _ => none

/-- The loop of `_utf16_boundaries`. -/
def scanBoundaries (targets : List Nat) (last : Nat) :
    Nat → Nat → PyStr → Dict Nat Nat → Dict Nat Nat
  | _, _, [], boundaries => boundaries
  | index, units, point :: rest, boundaries =>
    let units := units + point.width
    let boundaries := if units ∈ targets then boundaries.set units (index + 1) else boundaries
    if last ≤ units then boundaries else scanBoundaries targets last (index + 1) units rest boundaries

def largest (targets : List Nat) : Nat := targets.foldl max 0

/-- `_utf16_boundaries` -/
def utf16Boundaries (text : PyStr) (targets : List Nat) : Dict Nat Nat :=
  let boundaries := if 0 ∈ targets then Dict.empty.set 0 0 else Dict.empty
  if targets = [] then boundaries
  else scanBoundaries targets (largest targets) 0 0 text boundaries

structure EntityRange where
  entity : MentionEntity
  start : Nat
  stop : Nat

/-- The identity mapping, for a prefix within the basic plane. -/
def plainIndex (content : PyStr) (offset : Nat) : Option Nat :=
  if offset ≤ content.length then some offset else none

/-- The range is one of text that starts with `@`. -/
def rangeAt (content : PyStr) (index : Nat → Option Nat) (entity : MentionEntity)
    (units : Nat × Nat) : Option EntityRange :=
  match index units.1, index units.2 with
  | some start, some stop =>
    if stop ≤ start ∨ content[start]? ≠ some (ch '@') then none else some ⟨entity, start, stop⟩
  | _, _ => none

def validEntities (entities : List MentionEntity) : List (MentionEntity × (Nat × Nat)) :=
  entities.filterMap fun entity => (validUnits entity).map fun units => (entity, units)

/-- The boundaries that may lie inside the content. -/
def boundaryTargets (content : PyStr) (valid : List (MentionEntity × (Nat × Nat))) : List Nat :=
  (valid.flatMap fun item => [item.2.1, item.2.2]).filter fun boundary =>
    boundary ≤ 2 * content.length

/-- The prefix that decides on the mapping lies within the basic plane. -/
def plainPrefix (content : PyStr) (targets : List Nat) : Bool :=
  (content.take (largest targets)).all fun point => point.val ≤ 0xffff

/-- `entity_ranges` -/
def entityRanges (content : PyStr) (entities : List MentionEntity) : List EntityRange :=
  let valid := validEntities entities
  let targets := boundaryTargets content valid
  let index :=
    if plainPrefix content targets then plainIndex content
    else (utf16Boundaries content targets).get?
  valid.filterMap fun item => rangeAt content index item.1 item.2

def sortedEntities (content : PyStr) (entities : List MentionEntity) : List EntityRange :=
  (entityRanges content entities).insertionSort fun first second => first.start ≤ second.start

def overlaps : List EntityRange → Bool
  | first :: second :: rest => second.start < first.stop || overlaps (second :: rest)
  | _ => false

variable (words : WordChars) (str : Json → PyStr)

/-- A uid in a format string; `str` is what other values print. -/
def uidText : Json → PyStr
  | .str text => text
  | value => str value

def EntityRange.replacement (content : PyStr) (range : EntityRange) : Replacement :=
  ⟨range.start, range.stop,
    ⟨uidText str range.entity.uid, (content.take range.stop).drop (range.start + 1)⟩⟩

/-- The replacements of the sidecar; overlapping ranges discard it whole. -/
def entityReplacements (content : PyStr) (payload : MentionPayload) : Option (List Replacement) :=
  match payload.entities with
  | none => none
  | some entities =>
    let sorted := sortedEntities content entities
    if sorted.isEmpty || overlaps sorted then none
    else some (sorted.map (EntityRange.replacement str content))

def sortedNames (members : Dict PyStr PyStr) : List PyStr :=
  members.keys.insertionSort fun first second => second.length ≤ first.length

/-- `member_map.get(name)`, when it is no empty text. -/
def memberUid (members : Dict PyStr PyStr) (name : PyStr) : Option PyStr :=
  (members.get? name).filter fun uid => uid ≠ []

/-- No name character follows the name. -/
def nameEnds (text : PyStr) (stop : Nat) : Bool :=
  text[stop]?.all fun point => !nameChar words point

/-- `_try_longest_member_match` -/
def tryLongestMemberMatch (text : PyStr) (atPos : Nat) (members : Dict PyStr PyStr) :
    Option Envelope :=
  (sortedNames members).findSome? fun candidate =>
    if candidate.isPrefixOf (text.drop (atPos + 1)) &&
        nameEnds words text (atPos + 1 + candidate.length) then
      (memberUid members candidate).map fun uid => ⟨uid, candidate⟩
    else none

def replaceName (start : Nat) (envelope : Envelope) : Replacement :=
  ⟨start, start + 1 + envelope.name.length, envelope⟩

/-- The member that a mention stands for. -/
def resolveMember (content : PyStr) (members : Dict PyStr PyStr) (mention : MentionMatch) :
    Option Envelope :=
  match tryLongestMemberMatch words content mention.start members with
  | some envelope => some envelope
  | none => (memberUid members mention.name).map fun uid => ⟨uid, mention.name⟩

def memberReplacement (content : PyStr) (members : Dict PyStr PyStr) (mention : MentionMatch) :
    Option Replacement :=
  (resolveMember words content members mention).map (replaceName mention.start)

def positionalUid : Json → Option PyStr
  | .str uid => if uid = [] then none else some uid
  | _ => none

def positionalReplacement (pair : MentionMatch × Json) : Option Replacement :=
  (positionalUid pair.2).map fun uid => replaceName pair.1.start ⟨uid, pair.1.name⟩

/-- The mentions that are looked at. -/
def boundedMentions (content : PyStr) : List MentionMatch :=
  (mentionMatches words content).take maxMentionsPerMessage

def sortReplacements (replacements : List Replacement) : List Replacement :=
  replacements.insertionSort fun first second => first.start ≤ second.start

def hasMembers (members : Option (Dict PyStr PyStr)) : Bool :=
  members.any fun members => 0 < members.size

/-- The replacements without a sidecar. -/
def fallbackReplacements (content : PyStr) (payload : MentionPayload)
    (members : Option (Dict PyStr PyStr)) : List Replacement :=
  if hasMembers members then
    (boundedMentions words content).filterMap
      (memberReplacement words content (members.getD .empty))
  else
    ((boundedMentions words content).zip (payload.uids.getD [])).filterMap positionalReplacement

/-- `convert_content_for_llm` of a text. -/
def convertContentForLlm (content : PyStr) (mention : MentionArg)
    (members : Option (Dict PyStr PyStr)) : PyStr :=
  match coerceMention mention with
  | none => neutralizeStructuredMentionEnvelopes content
  | some payload =>
    match entityReplacements str content payload with
    | some replacements => renderTrustedReplacements content replacements
    | none =>
      if hasMembers members || payload.uids.any fun uids => 0 < uids.length then
        renderTrustedReplacements content
          (sortReplacements (fallbackReplacements words content payload members))
      else neutralizeStructuredMentionEnvelopes content

/-- The trusted replacements that the conversion puts in. -/
def trustedReplacements (content : PyStr) (mention : MentionArg)
    (members : Option (Dict PyStr PyStr)) : List Replacement :=
  match coerceMention mention with
  | none => []
  | some payload =>
    match entityReplacements str content payload with
    | some replacements => replacements
    | none => sortReplacements (fallbackReplacements words content payload members)

variable {words str} {content : PyStr} {mention : MentionArg} {members : Option (Dict PyStr PyStr)}

theorem convert_eq_render (content : PyStr) (mention : MentionArg)
    (members : Option (Dict PyStr PyStr)) :
    convertContentForLlm words str content mention members =
      renderTrustedReplacements content
        (trustedReplacements words str content mention members) := by
  unfold convertContentForLlm trustedReplacements
  cases coerceMention mention with
  | none => rfl
  | some payload =>
    dsimp only
    cases entityReplacements str content payload with
    | some replacements => rfl
    | none =>
      dsimp only
      split
      · rfl
      · rename_i neither
        rw [Bool.or_eq_true, not_or] at neither
        have empty : fallbackReplacements words content payload members = [] := by
          unfold fallbackReplacements
          rw [if_neg neither.1]
          cases named : payload.uids with
          | none => rw [Option.getD_none, List.zip_nil_right, List.filterMap_nil]
          | some uids =>
            have short := neither.2
            rw [named] at short
            have none : uids = [] := by simpa using short
            rw [none, Option.getD_some, List.zip_nil_right, List.filterMap_nil]
        rw [empty]
        rfl

end OctoChannel.Mentions

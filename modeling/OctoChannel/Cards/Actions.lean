import OctoChannel.Foundation.Json
import OctoChannel.Identity.Ids

namespace OctoChannel.Cards

open Foundation Identity

def maxSafeEventId : Nat := 2 ^ 53 - 1

/-- `_safe_event_id` -/
def safeEventId : Json → Option Nat
  | .int value => if 0 ≤ value ∧ value ≤ maxSafeEventId then some value.toNat else none
  | _ => none

structure CardAction where
  eventId : Nat
  messageId : PyStr
  channelId : PyStr
  channelType : ChannelType
  actionId : PyStr
  inputs : List (PyStr × PyStr)
  operatorUid : PyStr
  data : List (PyStr × Json)

/-- `_bounded_string`; an empty result stands for a refused value. -/
def boundedString (value : Json) (maxChars : Nat) : PyStr :=
  match value with
  | .str text =>
    let candidate := strip text
    if candidate.length > maxChars ∨ candidate.any fun character => character ∈ py "\x00\r\n" then []
    else candidate
  | _ => []

/-- `_channel_type` -/
def channelTypeOf : Json → Option ChannelType
  | .int value => ChannelType.ofInt? value
  | .str text =>
    if text = py "1" then some .DM
    else if text = py "2" then some .Group
    else if text = py "5" then some .CommunityTopic
    else none
  | _ => none

/-- `_CARD_ID_RE` -/
def isCardId (text : PyStr) : Bool :=
  (1 ≤ text.length ∧ text.length ≤ 64) ∧ text.all fun character =>
    (ch 'A' ≤ character ∧ character ≤ ch 'Z') ∨ (ch 'a' ≤ character ∧ character ≤ ch 'z') ∨
      (ch '0' ≤ character ∧ character ≤ ch '9') ∨ character ∈ py "_.:-"

def maxEventInputFields : Nat := 128
def maxEventDataFields : Nat := 128
def maxEventInputValueBytes : Nat := 16 * 2 ^ 10
def maxEventEnvelopeBytes : Nat := 64 * 2 ^ 10

/-- How one input value ends up: as a text, passed over, or refused. -/
inductive InputValue where
  | text (value : PyStr)
  | skipped
  | refused

def inputValue : Json → InputValue
  | .str text => .text text
  | .bool value => .text (py (if value then "true" else "false"))
  | .int value => if value.natAbs > maxSafeEventId then .refused else .text (Json.printInt value)
  | .float text =>
    if text = "NaN" ∨ text = "Infinity" ∨ text = "-Infinity" then .refused else .text (py text)
  | _ => .skipped

/-- The loop over `raw_inputs`; `none` refuses the whole action. -/
def inputsOf : List (PyStr × Json) → Option (List (PyStr × PyStr))
  | [] => some []
  | (key, value) :: rest =>
    if !isCardId key then none
    else
      match inputValue value with
      | .refused => none
      | .skipped => inputsOf rest
      | .text normalized =>
        match utf8Encode normalized with
        | none => none
        | some bytes =>
          if bytes.length > maxEventInputValueBytes then none
          else (inputsOf rest).map ((key, normalized) :: ·)

def actionInputs : Json → Option (List (PyStr × PyStr))
  | .null => some []
  | .obj members => if members.length > maxEventInputFields then none else inputsOf members
  | _ => none

def actionData : Json → Option (List (PyStr × Json))
  | .null => some []
  | .obj members =>
    if members.length ≤ maxEventDataFields ∧ members.all (fun member => isCardId member.1) then
      some members
    else none
  | _ => none

/-- The envelope whose printed size is bounded. -/
def envelope (inputs : List (PyStr × PyStr)) (data : List (PyStr × Json)) : Json :=
  .obj [(py "inputs", .obj (inputs.map fun input => (input.1, .str input.2))),
    (py "data", .obj data)]

/-- `parse_card_action`; a tree nested too deeply for the printer raises. -/
def parseCardAction (runtime : Json.Runtime) (event : Json) : Except PyError (Option CardAction) :=
  match event with
  | .obj members =>
    match safeEventId (Json.field (py "event_id") members), Json.field (py "event_type") members,
        Json.field (py "event_data") members with
    | some eventId, .str eventType, .obj raw =>
      let messageId := boundedString (Json.field (py "message_id") raw) 256
      let channelId := boundedString (Json.field (py "channel_id") raw) 256
      let actionId := boundedString (Json.field (py "action_id") raw) 64
      let operatorUid := boundedString (Json.field (py "operator_uid") raw) 128
      if eventType ≠ py "card_action" then .ok none
      else if messageId = [] ∨ channelId = [] ∨ actionId = [] ∨ operatorUid = [] then .ok none
      else
        match channelTypeOf (Json.field (py "channel_type") raw),
            actionInputs (Json.field (py "inputs") raw),
            actionData (Json.field (py "data") raw) with
        | some channelType, some inputs, some data =>
          if (envelope inputs data).depth > runtime.dumpsDepth then .error .recursionError
          else
            match utf8Encode (envelope inputs data).print with
            | none => .ok none
            | some bytes =>
              if bytes.length > maxEventEnvelopeBytes then .ok none
              else
                .ok (some ⟨eventId, messageId, channelId, channelType, actionId, inputs,
                  operatorUid, data⟩)
        | _, _, _ => .ok none
    | _, _, _ => .ok none
  | _ => .ok none

/-- The action keeps the id of its event. -/
theorem eventId_parseCardAction {runtime : Json.Runtime} {members : List (PyStr × Json)}
    {action : CardAction} (parsed : parseCardAction runtime (.obj members) = .ok (some action)) :
    safeEventId (Json.field (py "event_id") members) = some action.eventId := by
  simp only [parseCardAction] at parsed
  split at parsed
  · rename_i eventId eventType raw found _ _
    split at parsed
    · cases parsed
    · split at parsed
      · cases parsed
      · split at parsed
        · split at parsed
          · cases parsed
          · split at parsed
            · cases parsed
            · split at parsed
              · cases parsed
              · cases parsed
                exact found
        · cases parsed
  · cases parsed

end OctoChannel.Cards

import OctoChannel.Foundation.Dict
import OctoChannel.Cards.Actions

/-! The turns behind progress cards and what the lifecycle hooks make of one turn.
Times are milliseconds; the texts that `cards` makes of arguments, results and errors
come in as values. -/

namespace OctoChannel.Progress

open Foundation Identity

def maxProgressToolEntries : Nat := 32

def cardAuthoringTools : List PyStr :=
  [py "octo_send_display_card", py "octo_send_interactive_card"]

inductive ToolStatus where
  | running
  | complete
  | failed
  deriving DecidableEq

structure ProgressTool where
  toolCallId : PyStr
  toolName : PyStr
  label : PyStr
  summary : PyStr
  status : ToolStatus
  error : PyStr
  thought : PyStr
  resultSummary : PyStr
  durationMs : Option Nat
  startedAt : Int
  deriving DecidableEq

namespace ProgressTool

variable (tool : ProgressTool)

/-- A new tool, with the defaults of the fields that its end fills in. -/
def started (callId toolName label summary : PyStr) (now : Int) : ProgressTool where
  toolCallId := callId
  toolName := toolName
  label := label
  summary := summary
  status := .running
  error := []
  thought := []
  resultSummary := []
  durationMs := none
  startedAt := now

def isThinking : Bool := tool.toolName = py "__thinking__"

def elapsed (now : Int) : Nat := (now - tool.startedAt).toNat

/-- Mark the tool and time it by the clock. -/
def ended (status : ToolStatus) (now : Int) : ProgressTool :=
  { tool with status, durationMs := some (tool.elapsed now) }

/-- What the end of a turn does to a tool that still runs. -/
def closed (status : ToolStatus) (now : Int) : ProgressTool :=
  if tool.status = .running then tool.ended status now else tool

end ProgressTool

/-- `cards.safe_tool_label`; `_SAFE_TOOL_LABEL_RE` is the pattern of a card id. -/
def safeToolLabel (toolName : PyStr) : PyStr :=
  if toolName = [] then py "tool"
  else if (py "mcp__").isPrefixOf toolName then py "MCP tool"
  else if !Cards.isCardId toolName then py "tool"
  else toolName

/-- `TrustedOctoRoute` -/
structure TrustedOctoRoute where
  channelId : PyStr
  chatId : PyStr
  channelType : ChannelType
  requesterUid : PyStr
  sessionKey : PyStr

structure TemplateRef where
  id : PyStr
  version : PyStr
  deriving DecidableEq

/-- `delivery_mode`, with the `template_ref` that a registry card always has. -/
inductive DeliveryMode where
  | card
  | registry (templateRef : TemplateRef)
  deriving DecidableEq

def DeliveryMode.isRegistry : DeliveryMode → Bool
  | .card => false
  | .registry _ => true

structure ProgressKey where
  sessionId : PyStr
  turnId : PyStr
  segmentNo : Nat
  deriving DecidableEq

/-- What never changes: `ident` is the object itself, and stands for its fresh
`client_msg_no`. -/
structure TurnOrigin where
  ident : Nat
  adapter : Nat
  route : TrustedOctoRoute
  key : ProgressKey
  startedAt : Int

/-- What the hooks write. `publishedRevision` is the revision of the last hook that
asked for a drain; no modelled function reads it. -/
structure TurnContent where
  tools : Dict PyStr ProgressTool
  fallbackIds : Dict PyStr (List PyStr)
  revision : Nat
  final : Bool
  finalPhase : PyStr
  phase : PyStr
  publishedRevision : Int

namespace TurnContent

variable (content : TurnContent)

def hasRealTool : Bool := content.tools.entries.any fun entry => !entry.2.isThinking

/-- `_tool_snapshot` -/
def toolSnapshot : List ProgressTool :=
  (content.tools.entries.map Prod.snd).drop (content.tools.size - maxProgressToolEntries)

/-- The phase a drain renders. -/
def shownPhase : PyStr := if content.final then content.finalPhase else content.phase

end TurnContent

/-- What scheduling and the drains write. -/
structure TurnDelivery where
  deliveredRevision : Int
  messageId : Option PyStr
  cardSeq : Nat
  scheduled : Bool
  sendStarted : Bool
  deliveryMode : Option DeliveryMode
  preserveRegistrySessionOnDrop : Bool
  initialDelivery : Bool

/-- `_ProgressTurn` -/
structure ProgressTurn extends TurnOrigin, TurnContent, TurnDelivery

namespace ProgressTurn

variable (turn : ProgressTurn)

def fresh (origin : TurnOrigin) (deliveryMode : Option DeliveryMode) : ProgressTurn where
  toTurnOrigin := origin
  tools := .empty
  fallbackIds := .empty
  revision := 0
  final := false
  finalPhase := py "completed"
  phase := py "thinking"
  publishedRevision := -1
  deliveredRevision := -1
  messageId := none
  cardSeq := 0
  scheduled := false
  sendStarted := false
  deliveryMode := deliveryMode
  preserveRegistrySessionOnDrop := false
  initialDelivery := false

/-- A hook that bumped the revision asks for a drain. -/
def publish : ProgressTurn := { turn with publishedRevision := turn.revision }

/-- The condition under which a drop discards the session of the card. -/
def holdsCardSession : Bool :=
  turn.deliveryMode.any DeliveryMode.isRegistry && turn.messageId.any (· ≠ []) &&
    !turn.preserveRegistrySessionOnDrop

end ProgressTurn

/-- How a hook leaves the turn it found: as it was, changed, or changed with a drain
asked for. -/
inductive Amended where
  | kept
  | quiet (turn : ProgressTurn)
  | published (turn : ProgressTurn)

structure ModelFinish where
  modelCallId : PyStr
  thought : PyStr
  durationMs : Option Nat
  answering : Bool
  failed : Bool
  now : Int

structure ToolStart where
  toolCallId : PyStr
  toolName : PyStr
  label : PyStr
  summary : PyStr
  now : Int

structure ToolFinish where
  toolCallId : PyStr
  toolName : PyStr
  status : PyStr
  error : PyStr
  resultSummary : PyStr
  durationMs : Option Nat
  now : Int

def failedStatuses : List PyStr := [py "cancelled", py "error", py "blocked", py "failed"]

namespace ProgressTurn

variable (turn : ProgressTurn)

def modelStarted (modelCallId label : PyStr) (now : Int) : Amended :=
  if turn.final then .kept
  else
    let callId :=
      if modelCallId = [] then py "model-" ++ Json.printInt (turn.tools.size + 1) else modelCallId
    let stepId := py "__thinking__:" ++ callId
    .quiet { turn with
      tools := turn.tools.set stepId (.started stepId (py "__thinking__") label [] now)
      phase := py "thinking"
      revision := turn.revision + 1 }

/-- The thinking step that a model call ends: its own, or the last one that runs. -/
def thinkingStep? (modelCallId : PyStr) : Option (PyStr × ProgressTool) :=
  let stepId := if modelCallId = [] then [] else py "__thinking__:" ++ modelCallId
  match turn.tools.get? stepId with
  | some tool => some (stepId, tool)
  | none =>
    turn.tools.entries.reverse.find? fun entry => entry.2.isThinking && entry.2.status = .running

def modelFinished (finish : ModelFinish) : Amended :=
  if turn.final then .kept
  else
    match turn.thinkingStep? finish.modelCallId with
    | none => .kept
    | some (stepId, tool) =>
      .published { turn with
        tools := turn.tools.set stepId { tool with
          status := if finish.failed then .failed else .complete
          thought := finish.thought
          durationMs := some (finish.durationMs.getD (tool.elapsed finish.now)) }
        phase := if finish.answering then py "answering" else turn.phase
        revision := turn.revision + 1 }

/-- A card-authoring tool is not shown: it ends the thinking steps, and takes them off a
card without a real tool. -/
def cardAuthored (now : Int) : ProgressTurn :=
  let thinking := fun tool : ProgressTool => if tool.isThinking then tool.ended .complete now else tool
  { turn with
    tools :=
      if turn.hasRealTool then turn.tools.mapValues thinking
      else turn.tools.filterKeys fun id => !(turn.tools.get? id).any ProgressTool.isThinking
    revision := turn.revision + 1 }

def toolStarted (start : ToolStart) : Amended :=
  if turn.final then .kept
  else if start.toolName ∈ cardAuthoringTools then .quiet (turn.cardAuthored start.now)
  else
    let keyLabel := safeToolLabel start.toolName
    let callId :=
      if start.toolCallId = [] then keyLabel ++ py ":" ++ Json.printInt (turn.tools.size + 1)
      else start.toolCallId
    let toolName := if start.toolName = [] then keyLabel else start.toolName
    .published { turn with
      tools := turn.tools.set callId (.started callId toolName start.label start.summary start.now)
      phase := py "tool"
      fallbackIds :=
        if start.toolCallId = [] then
          turn.fallbackIds.set keyLabel ((turn.fallbackIds.get? keyLabel).getD [] ++ [callId])
        else turn.fallbackIds
      revision := turn.revision + 1 }

/-- The call id of a tool that ends, and the turn with a fallback id taken off. -/
def finishedCall (finish : ToolFinish) : PyStr × ProgressTurn :=
  if finish.toolCallId ≠ [] then (finish.toolCallId, turn)
  else
    let label := safeToolLabel finish.toolName
    match (turn.fallbackIds.get? label).getD [] |>.reverse with
    | [] => ([], turn)
    | [callId] => (callId, { turn with fallbackIds := turn.fallbackIds.erase label })
    | callId :: others =>
      (callId, { turn with fallbackIds := turn.fallbackIds.set label others.reverse })

def toolFinished (finish : ToolFinish) : Amended :=
  if turn.final then .kept
  else
    let (callId, found) := turn.finishedCall finish
    match found.tools.get? callId with
    | none => .quiet found
    | some tool =>
      let failed := finish.status ∈ failedStatuses
      .published { found with
        tools := found.tools.set callId { tool with
          status := if failed then .failed else .complete
          error := if failed then finish.error else []
          resultSummary := if failed then [] else finish.resultSummary
          durationMs := some (finish.durationMs.getD (tool.elapsed finish.now)) }
        revision := found.revision + 1 }

/-- The turn ends: tools that still run are closed. -/
def ended (finalPhase : PyStr) (status : ToolStatus) (now : Int) : ProgressTurn :=
  { turn with
    final := true
    finalPhase := finalPhase
    phase := finalPhase
    tools := turn.tools.mapValues (·.closed status now)
    revision := turn.revision + 1 }

/-- An empty `terminal_phase` counts as none. -/
def complete (failed : Bool) (terminalPhase : PyStr) (now : Int) : Amended :=
  let finalPhase :=
    if terminalPhase ≠ [] then terminalPhase
    else if failed then py "failed" else py "completed"
  let status := if failed ∨ finalPhase ≠ py "completed" then .failed else .complete
  .published (turn.ended finalPhase status now)

/-- What `rollover_for_inbound` does to a card that has been sent. -/
def stopped (now : Int) : ProgressTurn := turn.ended (py "stopped") .failed now

end ProgressTurn

end OctoChannel.Progress

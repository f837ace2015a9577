import OctoChannel.Foundation.Sections
import OctoChannel.Rendering.Texts

namespace OctoChannel.Rendering

open Foundation Identity Cards

variable (wording : Wording)

def reasoningFallbackThought : PyStr := py "正在分析…"

/-- The control characters that are no white space. -/
def isControl (point : CodePoint) : Bool :=
  point.val ≤ 0x08 || point.val = 0x0b || point.val = 0x0c ||
    (0x0e ≤ point.val && point.val ≤ 0x1f) || point.val = 0x7f

/-- `needle in text` -/
def contains (needle : PyStr) : PyStr → Bool
  | [] => needle.isEmpty
  | point :: rest => needle.isPrefixOf (point :: rest) || contains needle rest

def internalContextMarks : List PyStr :=
  [py "<<<BEGIN_OPENCLAW_INTERNAL_CONTEXT>>>", py "<<<END_OPENCLAW_INTERNAL_CONTEXT>>>"]

def reasoningThoughtMax : Nat := 280

/-- `sanitize_reasoning_thought` -/
def sanitizeReasoningThought (thought : Json) : Except RenderError PyStr :=
  match thought with
  | .str text =>
    let normalized := normalizeSpace (text.map fun point => if isControl point then ch ' ' else point)
    if normalized = [] ∨ internalContextMarks.any fun mark => contains mark normalized then
      .ok reasoningFallbackThought
    else
      match sanitizeVisibleText normalized with
      | .error (.cardLimit _) => .ok reasoningFallbackThought
      | .error error => .error error
      | .ok none => .ok reasoningFallbackThought
      | .ok (some clean) => .ok (ellipsize reasoningThoughtMax clean)
  | _ => .ok reasoningFallbackThought

inductive ToolStatus where
  | running
  | done
  | error
  deriving DecidableEq

/-- `_REASONING_STATUS_MAP` -/
def reasoningStatusMap : List (String × ToolStatus) :=
  [("running", .running), ("complete", .done), ("completed", .done), ("done", .done),
    ("ok", .done), ("failed", .error), ("error", .error), ("cancelled", .error)]

/-- A tool entry, known to be an object. -/
abbrev Tool := List (PyStr × Json)

/-- `_reasoning_status` -/
def reasoningStatus (tool : Tool) : Except RenderError ToolStatus :=
  match reasoningStatusMap.find? fun entry =>
      some (py entry.1) = stringOf (Json.field (py "status") tool) with
  | some entry => .ok entry.2
  | none => .error (.valueError "unsupported progress tool status")

def toolName (tool : Tool) : Option PyStr := stringOf (Json.field (py "tool_name") tool)

def isThinking (tool : Tool) : Bool := toolName tool = some (py "__thinking__")

def reasoningToolNameMax : Nat := 80

/-- `_reasoning_tool_name`: a label that is too long for the card does not count. -/
def reasoningToolName (tool : Tool) : Except RenderError PyStr :=
  match visibleField (Json.field (py "label") tool) with
  | .error (.cardLimit _) => .ok (localizedToolLabel (toolName tool))
  | .error error => .error error
  | .ok none => .ok (localizedToolLabel (toolName tool))
  | .ok (some clean) => .ok (ellipsize reasoningToolNameMax clean)

structure ReasoningAction where
  tool : PyStr
  detail : PyStr
  statusGlyph : PyStr
  statusTone : PyStr
  deriving DecidableEq

def ToolStatus.glyph : ToolStatus → PyStr
  | .running => py "◉"
  | .error => py "○"
  | .done => py "●"

def ToolStatus.tone : ToolStatus → PyStr
  | .running => py "Accent"
  | .error => py "Attention"
  | .done => py "Good"

/-- A detail with its duration, when there is one. -/
def timed (detail duration : PyStr) : PyStr :=
  if duration = [] then detail else detail ++ py " · " ++ duration

/-- The detail of a tool that is not the wait for subtasks. -/
def toolDetail (status : ToolStatus) (tool : Tool) : Except RenderError PyStr :=
  match visibleField (Json.field (py "summary") tool),
      localizedField wording (Json.field (py "result_summary") tool) with
  | .error error, _ => .error error
  | .ok _, .error error => .error error
  | .ok summary, .ok result =>
    let outcome :=
      if status = .error then some (sanitizeErrorText wording (Json.field (py "error") tool))
      else result
    let parts := (summary.toList ++ outcome.toList).filter fun part => part ≠ []
    if parts ≠ [] then .ok (joined (py " · ") parts)
    else
      match status with
      | .running => .ok (py "进行中")
      | .error => .ok (py "调用失败")
      | .done => .ok (py "已完成")

def reasoningDetail (status : ToolStatus) (tool : Tool) : Except RenderError PyStr :=
  if toolName tool = some (py "__subagent_wait__") then
    .ok (timed (if status = .running then py "正在等待子任务…" else py "子任务已返回")
      (formatProgressDuration wording (Json.field (py "duration_ms") tool)))
  else toolDetail wording status tool

/-- `_reasoning_action` -/
def reasoningAction (tool : Tool) : Except RenderError ReasoningAction :=
  match reasoningStatus tool with
  | .error error => .error error
  | .ok status =>
    match reasoningDetail wording status tool with
    | .error error => .error error
    | .ok detail =>
      match reasoningToolName tool with
      | .error error => .error error
      | .ok name => .ok ⟨name, detail, status.glyph, status.tone⟩

structure ReasoningPhase where
  thought : PyStr
  actions : List ReasoningAction
  deriving DecidableEq

/-- The current phase is the last one; without any a fallback phase is opened. -/
def addAction (action : ReasoningAction) : List ReasoningPhase → List ReasoningPhase
  | [] => [⟨reasoningFallbackThought, [action]⟩]
  | [phase] => [{ phase with actions := phase.actions ++ [action] }]
  | phase :: next :: rest => phase :: addAction action (next :: rest)

/-- The phases so far and the thinking steps so far. -/
structure Grouping where
  phases : List ReasoningPhase
  thinkingSteps : List Tool

/-- One round of the loop over the tools. -/
def groupTool (grouping : Grouping) : Json → Except RenderError Grouping
  | .obj tool =>
    if isThinking tool then
      match reasoningStatus tool, sanitizeReasoningThought (Json.field (py "thought") tool) with
      | .error error, _ => .error error
      | .ok _, .error error => .error error
      | .ok _, .ok thought =>
        .ok ⟨grouping.phases ++ [⟨thought, []⟩], grouping.thinkingSteps ++ [tool]⟩
    else
      match reasoningAction wording tool with
      | .error error => .error error
      | .ok action => .ok { grouping with phases := addAction action grouping.phases }
  | _ => .error (.valueError "progress tool entries must be objects")

def groupTools (grouping : Grouping) : List Json → Except RenderError Grouping
  | [] => .ok grouping
  | tool :: rest =>
    match groupTool wording grouping tool with
    | .error error => .error error
    | .ok next => groupTools next rest

def ToolStatus.stepDetail : ToolStatus → PyStr
  | .running => py "正在规划下一步…"
  | .error => py "该阶段已停止"
  | .done => py "该阶段已完成"

def stepAction (status : ToolStatus) (duration : PyStr) : ReasoningAction :=
  ⟨py "分析问题", timed status.stepDetail duration, status.glyph, status.tone⟩

/-- The action that stands in for an empty phase; without a thinking step it is done. -/
def synthesizedAction (thinking : Option Tool) : Except RenderError ReasoningAction :=
  match thinking with
  | none => .ok (stepAction .done [])
  | some step =>
    (reasoningStatus step).map fun status =>
      stepAction status (formatProgressDuration wording (Json.field (py "duration_ms") step))

/-- The last loop: the phase with this index is filled from the thinking step with it. -/
def synthesizeFrom (thinkingSteps : List Tool) : Nat → List ReasoningPhase →
    Except RenderError (List ReasoningPhase)
  | _, [] => .ok []
  | index, phase :: rest =>
    let filled :=
      if phase.actions ≠ [] then .ok phase
      else (synthesizedAction wording thinkingSteps[index]?).map fun action =>
        { phase with actions := [action] }
    match filled with
    | .error error => .error error
    | .ok filled => (synthesizeFrom thinkingSteps (index + 1) rest).map (filled :: ·)

/-- `_reasoning_phases` -/
def reasoningPhases (tools : List Json) (synthesizeEmptyActions : Bool) :
    Except RenderError (List ReasoningPhase) :=
  match groupTools wording ⟨[], []⟩ tools with
  | .error error => .error error
  | .ok grouping =>
    let phases :=
      if grouping.phases = [] then [⟨reasoningFallbackThought, []⟩] else grouping.phases
    if synthesizeEmptyActions then synthesizeFrom wording grouping.thinkingSteps 0 phases
    else .ok phases

def reasoningMaxPhases : Nat := 6
def reasoningMaxActions : Nat := 12

/-- The loop over the reversed phases. -/
def trimBackwards : Nat → List ReasoningPhase → List ReasoningPhase
  | _, [] => []
  | remaining, phase :: rest =>
    if remaining = 0 then []
    else
      let actions := lastItems remaining phase.actions
      ⟨phase.thought, actions⟩ :: trimBackwards (remaining - actions.length) rest

/-- `_trim_reasoning_phases` -/
def trimReasoningPhases (phases : List ReasoningPhase) : List ReasoningPhase :=
  (trimBackwards reasoningMaxActions (lastItems reasoningMaxPhases phases).reverse).reverse

inductive ReasoningState where
  | reasoning
  | answering
  | completed
  | stopped
  | error
  deriving DecidableEq

/-- `_REASONING_PHASE_NAMES` -/
def reasoningPhaseNames : List (String × ReasoningState) :=
  [("starting", .reasoning), ("thinking", .reasoning), ("running", .reasoning),
    ("tool", .reasoning), ("paused", .reasoning), ("resuming", .reasoning),
    ("answering", .answering), ("completed", .completed), ("done", .completed),
    ("stopped", .stopped), ("failed", .error), ("error", .error), ("expired", .error)]

def reasoningState? (phase : PyStr) : Option ReasoningState :=
  (reasoningPhaseNames.find? fun entry => py entry.1 = phase).map Prod.snd

structure ReasoningData where
  reasoningId : PyStr
  state : ReasoningState
  title : PyStr
  statusLabel : PyStr
  statusTone : PyStr
  timerText : PyStr
  traceExpanded : Bool
  traceCollapsed : Bool
  collapsedSummary : PyStr
  phases : List ReasoningPhase
  progressText : Option PyStr
  errorTitle : Option PyStr
  errorMessage : Option PyStr

/-- A tool name that can be looked up in a set; arrays and objects cannot be hashed. -/
def isHashable : Json → Bool
  | .arr _ | .obj _ => false
  | _ => true

/-- How many tools are neither a thinking step nor a wait. -/
def toolCount : List Json → Except RenderError Nat
  | [] => .ok 0
  | .obj tool :: rest =>
    if !isHashable (Json.field (py "tool_name") tool) then
      .error (.other (.typeError "unhashable type"))
    else
      (toolCount rest).map fun count =>
        if isThinking tool ∨ toolName tool = some (py "__subagent_wait__") then count else count + 1
  | _ :: _ => .error (.valueError "progress tool entries must be objects")

def elapsedText (elapsedMs : Json) : PyStr :=
  let elapsed := formatProgressDuration wording elapsedMs
  if elapsed = [] then py "0ms" else elapsed

def counted (count : Nat) (unit : String) : PyStr := Json.printNat count ++ py unit

def ReasoningState.statusLabel : ReasoningState → PyStr
  | .reasoning => py "进行中"
  | .answering => py "正在整理答案"
  | .completed => py "已完成"
  | .stopped => py "已停止"
  | .error => py "处理失败"

def ReasoningState.statusTone : ReasoningState → PyStr
  | .reasoning | .answering => py "Accent"
  | .completed => py "Good"
  | .stopped => py "Warning"
  | .error => py "Attention"

def ReasoningState.timerText (state : ReasoningState) (elapsed phases tools : PyStr) : PyStr :=
  match state with
  | .reasoning => py "正在处理…"
  | .answering => py "正在整理答案…"
  | .stopped => elapsed ++ py " · 已保留 " ++ phases
  | .error => py "处理被中断"
  | .completed => elapsed ++ py " · " ++ phases ++ py " · " ++ tools

def ReasoningState.collapsedSummary (state : ReasoningState) (elapsed phases : PyStr) : PyStr :=
  match state with
  | .answering => py "分析已完成，正在整理答案"
  | .stopped => py "已保留停止前的 " ++ phases
  | .error => py "处理被中断，可展开查看已完成的步骤"
  | .completed => elapsed ++ py " · 执行详情已收起"
  | .reasoning => py "正在处理，可展开查看执行详情"

def ReasoningState.progressText (state : ReasoningState) (phase : PyStr) : Option PyStr :=
  match state with
  | .reasoning =>
    some (if phase = py "paused" then py "正在等待子任务…"
      else if phase = py "resuming" then py "子任务已返回，正在收尾…"
      else py "正在处理…")
  | .answering => some (py "分析已完成，正在整理答案…")
  | _ => none

/-- `_reasoning_process_data` -/
def reasoningProcessData (phase : PyStr) (tools : List Json) (elapsedMs : Json)
    (reasoningId : PyStr) (phases : List ReasoningPhase) : Except RenderError ReasoningData :=
  match reasoningState? phase with
  | none => .error (.valueError "unsupported progress card phase")
  | some state =>
    match toolCount tools with
    | .error error => .error error
    | .ok count =>
      let elapsed := elapsedText wording elapsedMs
      let phaseLabel := counted phases.length " 个阶段"
      let active := state = .reasoning ∨ state = .answering
      .ok {
        reasoningId := if strip reasoningId = [] then py "octo-progress" else strip reasoningId
        state := state
        title := py "处理进度"
        statusLabel := state.statusLabel
        statusTone := state.statusTone
        timerText := state.timerText elapsed phaseLabel (counted count " 次工具调用")
        traceExpanded := active ∨ state = .error
        traceCollapsed := ¬ active ∧ state ≠ .error
        collapsedSummary := state.collapsedSummary elapsed phaseLabel
        phases := phases
        progressText := state.progressText phase
        errorTitle := if state = .error then some (py "处理未完成") else none
        errorMessage :=
          if state = .error then
            some (if phase = py "expired" then py "等待后台任务超时。"
              else py "处理被中断，已完成的步骤仍然保留。")
          else none }

/-- `build_reasoning_process_data` -/
def buildReasoningProcessData (phase : PyStr) (tools : List Json) (elapsedMs : Json)
    (reasoningId : PyStr) : Except RenderError ReasoningData :=
  match reasoningPhases wording tools true with
  | .error error => .error error
  | .ok phases => reasoningProcessData wording phase tools elapsedMs reasoningId phases

/-- `build_reasoning_process_wire_data` -/
def buildReasoningProcessWireData (phase : PyStr) (tools : List Json) (elapsedMs : Json)
    (reasoningId : PyStr) : Except RenderError (Option ReasoningData) :=
  match reasoningPhases wording tools false with
  | .error error => .error error
  | .ok phases =>
    let nonempty := phases.filter fun phase => phase.actions ≠ []
    if nonempty = [] then .ok none
    else
      (reasoningProcessData wording phase tools elapsedMs reasoningId
        (trimReasoningPhases nonempty)).map some

end OctoChannel.Rendering

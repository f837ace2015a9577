import OctoChannel.Rendering.Rows

namespace OctoChannel.Rendering

open Foundation Identity Cards

variable (wording : Wording)

/-- `_PROGRESS_PHASES` -/
def progressPhases : List PyStr :=
  [py "thinking", py "tool", py "answering", py "completed", py "stopped", py "failed",
    py "error", py "expired", py "starting", py "running"]

/-- `_progress_state` -/
def progressState (phase : PyStr) : PyStr × PyStr :=
  if phase ∈ [py "starting", py "thinking", py "running", py "tool"] then (py "进行中", py "Accent")
  else if phase = py "answering" then (py "正在整理答案", py "Accent")
  else if phase = py "completed" then (py "已完成", py "Good")
  else if phase = py "stopped" then (py "已停止", py "Warning")
  else (py "处理失败", py "Attention")

def dotted (parts : List PyStr) : PyStr := joined (py " · ") (parts.filter fun part => part ≠ [])

/-- `_progress_header` -/
def progressHeader (phase : PyStr) (count : Nat) (elapsedMs : Json) : PyStr :=
  dotted [py "处理进度", (progressState phase).1,
    if count = 0 then [] else counted count " 个步骤", formatProgressDuration wording elapsedMs]

/-- `_progress_tool_label` -/
def progressToolLabel (tool : Tool) : Except RenderError PyStr :=
  (visibleField (Json.field (py "label") tool)).map fun label =>
    label.getD (localizedToolLabel (toolName tool))

/-- The summary of a step: the given one, or one of the parameters. -/
def stepSummary (tool : Tool) : Except RenderError PyStr :=
  match Json.field (py "summary") tool with
  | .str summary => (sanitizeVisibleText summary).map fun clean => clean.getD []
  | _ => wording.summarizeToolParams (toolName tool) (Json.field (py "args") tool)

/-- `_progress_step` -/
def progressStep (tool : Tool) : Except RenderError ReasoningAction :=
  let status := Json.field (py "status") tool
  if !isHashable status then .error (.other (.typeError "unhashable type"))
  else if stringOf status ∉ [some (py "running"), some (py "complete"), some (py "failed")] then
    .error (.valueError "unsupported progress tool status")
  else do
    let label ← progressToolLabel tool
    let summary ← stepSummary wording tool
    let result ← localizedField wording (Json.field (py "result_summary") tool)
    let duration := formatProgressDuration wording (Json.field (py "duration_ms") tool)
    if stringOf status = some (py "running") then
      .ok ⟨label, dotted [summary, py "进行中"], ToolStatus.running.glyph, ToolStatus.running.tone⟩
    else if stringOf status = some (py "failed") then
      let error := sanitizeErrorText wording (Json.field (py "error") tool)
      .ok ⟨label, dotted [summary, py "失败", error, duration], ToolStatus.error.glyph,
        ToolStatus.error.tone⟩
    else
      .ok ⟨label, dotted [summary, result.getD (py "已完成"), duration], ToolStatus.done.glyph,
        ToolStatus.done.tone⟩

def isComplete (tool : Tool) : Bool :=
  stringOf (Json.field (py "status") tool) = some (py "complete")

def hasResult (tool : Tool) : Bool := Mentions.truthy (Json.field (py "result_summary") tool)

/-- A later tool that joins the group of this one, where `equal` is `==` of two tool names. -/
def joinsGroup (equal : Json → Json → Bool) (current later : Tool) : Bool :=
  equal (Json.field (py "tool_name") later) (Json.field (py "tool_name") current) &&
    isComplete later && !hasResult later && !hasResult current

/-- The durations of a group that count: `bool` is no duration. -/
def validDuration (tool : Tool) : Option Int :=
  match Json.field (py "duration_ms") tool with
  | .int value => if 0 ≤ value then some value else none
  | _ => none

/-- The one step of a group of tools. -/
def groupStep (current : Tool) (group : List Tool) : Except RenderError ReasoningAction := do
  let valid := group.filterMap validDuration
  let duration := if valid = [] then [] else formatProgressDuration wording (.int valid.sum)
  let latest ← visibleField (Json.field (py "summary") (group.getLastD current))
  let label ← progressToolLabel current
  let detail := dotted [if duration = [] then [] else py "总计 " ++ duration,
    latest.elim [] fun latest => py "最近：" ++ latest]
  .ok ⟨label ++ py " × " ++ Json.printNat group.length, if detail = [] then py "已完成" else detail,
    ToolStatus.done.glyph, ToolStatus.done.tone⟩

/-- `_progress_steps`; the first tools of the list may belong to the group before it. -/
def progressSteps (equal : Json → Json → Bool) :
    Nat → List Tool → Except RenderError (List ReasoningAction)
  | _, [] => .ok []
  | skip + 1, _ :: rest => progressSteps equal skip rest
  | 0, current :: rest =>
    let others := rest.takeWhile (joinsGroup equal current)
    let step := if isComplete current ∧ others ≠ [] then groupStep wording current (current :: others)
      else progressStep wording current
    match step with
    | .error error => .error error
    | .ok step =>
      (progressSteps equal (if isComplete current then others.length else 0) rest).map (step :: ·)

/-- `_progress_plain_line` -/
def progressPlainLine (step : ReasoningAction) : PyStr :=
  step.statusGlyph ++ py " " ++ step.tool ++
    if step.detail = [] then [] else py " · " ++ step.detail

def realTool : Json → Option Tool
  | .obj tool => if isThinking tool then none else some tool
  | _ => none

def progressMaxVisibleSteps : Nat := 12

/-- What the card shows of a run. -/
structure ProgressView where
  phase : PyStr
  realTools : List Tool
  hidden : Nat
  steps : List ReasoningAction
  header : PyStr
  elapsed : PyStr

def hiddenNotice (hidden : Nat) : PyStr := py "已隐藏前 " ++ Json.printNat hidden ++ py " 个步骤"

def readProgress (equal : Json → Json → Bool) (phase : PyStr) (tools : List Json)
    (elapsedMs : Json) : Except RenderError ProgressView :=
  if phase ∉ progressPhases then .error (.valueError "unsupported progress card phase")
  else
    let realTools := tools.filterMap realTool
    (progressSteps wording equal 0 (lastItems progressMaxVisibleSteps realTools)).map fun steps =>
      { phase := phase
        realTools := realTools
        hidden := realTools.length - progressMaxVisibleSteps
        steps := steps
        header := progressHeader wording phase realTools.length elapsedMs
        elapsed := formatProgressDuration wording elapsedMs }

def ProgressView.detailLines (view : ProgressView) : List PyStr :=
  let lines := (if view.hidden = 0 then [] else [hiddenNotice view.hidden]) ++
    view.steps.map progressPlainLine
  if lines = [] then [py "正在准备"] else lines

/-- The lines as they were made, with the white space that a display card takes out. -/
def ProgressView.plain (view : ProgressView) : PyStr :=
  joined (py "\n") (view.header :: view.detailLines)

def textBlock (line : PyStr) : Json :=
  .obj [(py "type", .str (py "text")), (py "text", .str line)]

/-- The server takes buttons that toggle the visibility of elements. -/
def canToggle (capabilities : CardCapabilities) : Bool :=
  supports capabilities.elements (py "ActionSet") &&
    capabilities.actions.any (py "Action.ToggleVisibility" ∈ ·)

def ProgressView.terminal (view : ProgressView) : Bool :=
  view.phase ∈ [py "completed", py "stopped", py "failed", py "error", py "expired"]

def ProgressView.summaryText (view : ProgressView) : PyStr :=
  let total := Json.printNat view.realTools.length
  let count :=
    if view.realTools = [] then []
    else if view.terminal then total ++ py " 个步骤"
    else py "已完成 " ++ Json.printNat (view.realTools.filter isComplete).length ++ py "/" ++ total ++
      py " 个步骤"
  let text := dotted [count, view.elapsed]
  if text = [] then py "正在准备" else text

/-- The last step, which stands in for a folded trace. -/
def ProgressView.collapsedItems (view : ProgressView) (detailVisible rich : Bool) : List Json :=
  if detailVisible then []
  else view.steps.getLast?.toList.map fun step =>
    .obj (traceRow (traceStepItems step.tool step.detail step.statusTone false rich)
      step.statusGlyph step.statusTone "None" true false)

def ProgressView.traceItems (view : ProgressView) (rich : Bool) : List Json :=
  let subtle := [flagMember "isSubtle" true, textMember "size" "Small", textMember "spacing" "None"]
  let notice := if view.hidden = 0 then []
    else [.obj (reasoningTextBlock (hiddenNotice view.hidden) subtle)]
  let live := view.steps.getLast?.any fun step => step.statusTone = py "Accent"
  let items := notice ++ actionRows rich (view.hidden ≠ 0) true live view.steps
  if items = [] then [.obj (reasoningTextBlock (py "正在准备") subtle)] else items

/-- The rich form of the card. -/
def ProgressView.card (view : ProgressView) (capabilities : CardCapabilities) :
    List (PyStr × Json) :=
  let rich := supports capabilities.elements (py "RichTextBlock")
  let detailVisible := !(canToggle capabilities && view.terminal && !view.steps.isEmpty)
  let state := progressState view.phase
  let collapsed := view.collapsedItems detailVisible rich
  let toggles := if canToggle capabilities then
      traceToggleBar (if collapsed.isEmpty then [("timeline_detail", true)]
        else [("timeline_detail", true), ("collapsed_steps", false)]) detailVisible
    else []
  traceCard
    ([.obj (headerContainer state.2 (headerColumns (py "处理进度") view.summaryText
        (traceStatusChip state.1 state.2 rich))),
      .obj (panelContainer "timeline_detail"
        (if view.hidden ≠ 0 || view.steps.isEmpty then "Small" else "Medium") detailVisible
        (view.traceItems rich))] ++
      (if collapsed.isEmpty then []
        else [.obj (panelContainer "collapsed_steps" "Medium" true collapsed)]) ++ toggles)

/-- The rich form needs a server that says what it shows. -/
def offersTrace (capabilities : Option CardCapabilities) : Option CardCapabilities :=
  capabilities.filter fun capabilities =>
    supports capabilities.elements (py "ColumnSet") && supports capabilities.elements (py "Container")

/-- `build_progress_card` -/
def buildProgressCard (urls : CardUrls) (equal : Json → Json → Bool) (phase : PyStr)
    (tools : List Json) (elapsedMs : Json) (capabilities : Option CardCapabilities) :
    Except RenderError CardRenderResult :=
  match readProgress wording equal phase tools elapsedMs with
  | .error error => .error error
  | .ok view =>
    match buildDisplayCard urls (view.detailLines.map textBlock) (.str view.header) capabilities with
    | .error error => .error error
    | .ok flat =>
      match offersTrace capabilities with
      | none => .ok ⟨flat.card, view.plain⟩
      | some trace =>
        match validateCardLimits (view.card trace) view.plain capabilities cardProfileV1 with
        | .error (.cardLimit _) => .ok ⟨flat.card, view.plain⟩
        | .error error => .error error
        | .ok _ => .ok ⟨view.card trace, view.plain⟩

end OctoChannel.Rendering

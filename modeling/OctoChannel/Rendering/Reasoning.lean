import OctoChannel.Rendering.Progress

namespace OctoChannel.Rendering

open Foundation Identity Cards

variable (wording : Wording)

/-- The phase of the progress card that stands in. -/
def fallbackPhase (phase : PyStr) : PyStr :=
  match reasoningState? phase with
  | some .completed => py "completed"
  | some .error | some .stopped => py "failed"
  | _ => py "running"

/-- `_reasoning_meta_text`; the tools were counted before. -/
def reasoningMetaText (data : ReasoningData) (elapsedMs : Json) (tools phaseTotal : Nat) : PyStr :=
  match data.state with
  | .reasoning | .answering =>
    dotted [elapsedText wording elapsedMs,
      if phaseTotal = 0 then [] else counted phaseTotal " 个阶段",
      if tools = 0 then [] else counted tools " 次工具调用"]
  | _ => data.timerText

/-- `_phase_speaks` -/
def phaseSpeaks (phase : ReasoningPhase) : Bool :=
  phase.actions.isEmpty || phase.thought ≠ reasoningFallbackThought

/-- `_reasoning_phase_block` -/
def reasoningPhaseBlock (phase : ReasoningPhase) (first tail live rich : Bool) :
    List (PyStr × Json) :=
  let speaks := phaseSpeaks phase
  let thought := if speaks then
      [.obj (reasoningTextBlock phase.thought [textMember "spacing" "None"])]
    else []
  let hoisted := first && !speaks
  [(py "type", .str (py "Container")),
    textMember "spacing" (if first || !speaks then "None" else "Medium"),
    flagMember "separator" (speaks && !first),
    (py "items", .arr (thought ++ actionRows rich (!hoisted) tail live phase.actions))]

/-- The blocks of the phases; only the last one may be the tail and live. -/
def phaseBlocks (rich tail live : Bool) : Bool → List ReasoningPhase → List Json
  | _, [] => []
  | first, [phase] => [.obj (reasoningPhaseBlock phase first tail live rich)]
  | first, phase :: next :: rest =>
    .obj (reasoningPhaseBlock phase first false false rich) ::
      phaseBlocks rich tail live false (next :: rest)

/-- What the reasoning card shows of a run. -/
structure ReasoningView where
  data : ReasoningData
  phases : List ReasoningPhase
  metaText : PyStr

def ReasoningView.lastAction (view : ReasoningView) : Option ReasoningAction :=
  view.phases.getLast?.bind fun phase => phase.actions.getLast?

def ReasoningView.runningLast (view : ReasoningView) : Bool :=
  view.lastAction.any fun action => action.statusTone = py "Accent"

/-- The running step already carries the live line. -/
def ReasoningView.progressText (view : ReasoningView) : PyStr :=
  if view.runningLast && view.data.state = .reasoning then []
  else view.data.progressText.getD []

def ReasoningView.errorMessage (view : ReasoningView) : PyStr := view.data.errorMessage.getD []

def ReasoningView.traceItems (view : ReasoningView) (rich : Bool) : List Json :=
  let hasTail := view.progressText ≠ [] ∨ view.errorMessage ≠ []
  phaseBlocks rich (¬ hasTail) view.runningLast true view.phases ++
    (if view.progressText = [] then []
    else [.obj (reasoningSummaryRow view.progressText (py "◉") (py "Accent") "None"
      (view.errorMessage = []) true)]) ++
    (if view.errorMessage = [] then []
    else [.obj (reasoningSummaryRow view.errorMessage (py "○") (py "Attention") "None" true true)])

def ReasoningView.collapsedRow (view : ReasoningView) (rich : Bool) : List (PyStr × Json) :=
  match view.lastAction with
  | some action =>
    traceRow (traceStepItems action.tool action.detail action.statusTone false rich)
      action.statusGlyph action.statusTone "None" true false
  | none =>
    reasoningSummaryRow view.data.collapsedSummary (py "●") view.data.statusTone "None" true false

/-- Without capabilities everything is shown, but nothing can be toggled. -/
def mayToggle (capabilities : Option CardCapabilities) : Bool := capabilities.any canToggle

def ReasoningView.card (view : ReasoningView) (capabilities : Option CardCapabilities) :
    List (PyStr × Json) :=
  let rich := offers capabilities CardCapabilities.elements (py "RichTextBlock")
  let toggles := mayToggle capabilities
  let traceVisible := if toggles then view.data.traceExpanded else true
  let lead := if view.phases.head?.any phaseSpeaks then "Small" else "Medium"
  traceCard
    ([.obj (headerContainer view.data.statusTone (headerColumns view.data.title view.metaText
        (traceStatusChip view.data.statusLabel view.data.statusTone rich))),
      .obj (panelContainer "trace_panel" lead traceVisible (view.traceItems rich)),
      .obj (panelContainer "collapsed_panel" "Medium" (toggles && view.data.traceCollapsed)
        [.obj (view.collapsedRow rich)])] ++
      if toggles then
        traceToggleBar [("trace_panel", true), ("collapsed_panel", false)] traceVisible
      else [])

def phaseLines (phase : ReasoningPhase) : List PyStr :=
  (if phaseSpeaks phase then [phase.thought] else []) ++
    phase.actions.map fun action => action.tool ++ py " · " ++ action.detail

def ReasoningView.plain (view : ReasoningView) : PyStr :=
  joined (py "\n") ((view.data.title ++ py " · " ++ view.data.statusLabel ++ py " · " ++
      view.metaText) :: view.phases.flatMap phaseLines ++
    [view.progressText, view.errorMessage].filter fun line => line ≠ [])

def readReasoning (phase : PyStr) (tools : List Json) (elapsedMs : Json) (reasoningId : PyStr) :
    Except RenderError ReasoningView :=
  match buildReasoningProcessData wording phase tools elapsedMs reasoningId with
  | .error error => .error error
  | .ok data =>
    (toolCount tools).map fun count =>
      { data := data
        phases := trimReasoningPhases data.phases
        metaText := reasoningMetaText wording data elapsedMs count data.phases.length }

/-- The elements that a reasoning card cannot do without. -/
def offersReasoning (capabilities : Option CardCapabilities) : Bool :=
  [py "TextBlock", py "Container", py "ColumnSet"].all
    (offers capabilities CardCapabilities.elements)

/-- `build_reasoning_process_card` -/
def buildReasoningProcessCard (urls : CardUrls) (equal : Json → Json → Bool) (phase : PyStr)
    (tools : List Json) (elapsedMs : Json) (reasoningId : PyStr)
    (capabilities : Option CardCapabilities) : Except RenderError CardRenderResult :=
  let fallback := buildProgressCard wording urls equal (fallbackPhase phase) tools .null capabilities
  if !offersReasoning capabilities then fallback
  else
    match readReasoning wording phase tools elapsedMs reasoningId with
    | .error error => .error error
    | .ok view =>
      match validateCardLimits (view.card capabilities) view.plain capabilities cardProfileV1 with
      | .error (.cardLimit _) => fallback
      | .error error => .error error
      | .ok _ => .ok ⟨view.card capabilities, view.plain⟩

end OctoChannel.Rendering

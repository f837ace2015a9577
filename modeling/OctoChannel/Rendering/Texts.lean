import OctoChannel.Cards.Actions
import OctoChannel.Foundation.Readers

namespace OctoChannel.Rendering

open Foundation Identity Cards

/-- `CardLimitError` is the one that renderers catch. -/
inductive RenderError where
  | cardLimit (message : String)
  | other (error : PyError)
  deriving DecidableEq

def RenderError.valueError (message : String) : RenderError := .other (.valueError message)

/-- `re.sub(r"\s+", " ", text)`; the flag tells that a run of white space is open. -/
def collapseSpace : Bool → PyStr → PyStr
  | _, [] => []
  | inRun, point :: rest =>
    if point.isWhitespace then
      if inRun then collapseSpace true rest else ch ' ' :: collapseSpace true rest
    else point :: collapseSpace false rest

def normalizeSpace (text : PyStr) : PyStr := strip (collapseSpace false text)

def maxVisibleTextBytes : Nat := 64 * 2 ^ 10

/-- `sanitize_visible_text`; an empty result is `None`. -/
def sanitizeVisibleText (text : PyStr) : Except RenderError (Option PyStr) :=
  match utf8Encode text with
  | none => .error (.other .unicodeError)
  | some bytes =>
    if maxVisibleTextBytes < bytes.length then
      .error (.cardLimit "card text bytes exceed local limit")
    else if normalizeSpace text = [] then .ok none
    else .ok (some (normalizeSpace text))

/-- `literal_card_text`: the backslash and the bracket that opens a link are escaped. -/
def literalCardText (text : PyStr) : PyStr :=
  text.flatMap fun point =>
    if point = ch '\\' ∨ point = ch '[' then [ch '\\', point] else [point]

/-- `f"{text[:limit]}…"` of a text that is too long. -/
def ellipsize (limit : Nat) (text : PyStr) : PyStr :=
  if limit < text.length then text.take limit ++ py "…" else text

/-- `sep.join(parts)` -/
def joined (separator : PyStr) (parts : List PyStr) : PyStr :=
  (parts.intersperse separator).flatten

/-- What is left open: case and digits of Unicode, the decimals of a duration in
milliseconds, `_redact_summary_text` and `summarize_tool_params`. -/
structure Wording where
  lower : PyStr → PyStr
  isDecimal : CodePoint → Bool
  milliseconds : Json → PyStr
  redactSummaryText : PyStr → PyStr
  summarizeToolParams : Option PyStr → Json → Except RenderError PyStr

/-- The wording for lower-case texts without digits, durations or secrets. -/
def plainWording : Wording where
  lower := id
  isDecimal := fun _ => false
  milliseconds := fun _ => py "1ms"
  redactSummaryText := id
  summarizeToolParams := fun _ _ => .ok []

variable (wording : Wording)

def isFiniteFloat (text : String) : Bool :=
  text ≠ "NaN" && text ≠ "Infinity" && text ≠ "-Infinity"

/-- `format_progress_duration`; the sign of a float is the first character that is printed. -/
def formatProgressDuration (durationMs : Json) : PyStr :=
  match durationMs with
  | .int value => if value < 0 then [] else wording.milliseconds durationMs
  | .float text =>
    if !isFiniteFloat text || (text.front = '-' && text ≠ "-0.0") then []
    else wording.milliseconds durationMs
  | _ => []

/-- `_TOOL_LABELS` -/
def toolLabels : List (String × String) := [
  ("__subagent_wait__", "等待子任务"), ("__thinking__", "分析问题"), ("apply_patch", "修改文件"),
  ("bash", "运行命令"), ("browser_back", "返回页面"), ("browser_click", "点击页面"),
  ("browser_console", "查看控制台"), ("browser_get_images", "查看图片"), ("browser_navigate", "打开网页"),
  ("browser_press", "发送按键"), ("browser_scroll", "滚动页面"), ("browser_snapshot", "读取网页"),
  ("browser_type", "填写表单"), ("browser_vision", "查看网页"), ("clarify", "确认需求"),
  ("delegate_task", "安排子任务"), ("edit", "修改文件"), ("exec", "运行命令"), ("exec_command", "运行命令"),
  ("fetch", "读取网页"), ("find", "搜索文件"), ("glob", "搜索文件"), ("grep", "搜索文件"),
  ("image_generate", "生成图片"), ("lcm_describe", "查看上下文"), ("lcm_expand", "展开上下文"),
  ("lcm_grep", "检索上下文"), ("lcm_inspect", "检查上下文"), ("ls", "列出文件"), ("memory", "更新记忆"),
  ("patch", "修改文件"), ("process", "运行命令"), ("read", "读取文件"), ("read_file", "读取文件"),
  ("search", "搜索文件"), ("search_files", "搜索文件"), ("session_search", "搜索会话"), ("shell", "运行命令"),
  ("skill_view", "读取技能"), ("skills_list", "列出技能"), ("terminal", "运行命令"),
  ("text_to_speech", "生成语音"), ("todo", "更新任务"), ("tool_call", "调用工具"),
  ("tool_describe", "读取工具说明"), ("tool_search", "查找工具"), ("vision_analyze", "查看图片"),
  ("web_extract", "读取网页"), ("web_search", "搜索网页"), ("write", "写入文件"), ("write_file", "写入文件")]

/-- `safe_tool_label` -/
def safeToolLabel (toolName : Option PyStr) : PyStr :=
  match toolName with
  | none => py "tool"
  | some name =>
    if name = [] then py "tool"
    else if (py "mcp__").isPrefixOf name then py "MCP tool"
    else if isCardId name then name
    else py "tool"

/-- `localized_tool_label` without parameters. -/
def localizedToolLabel (toolName : Option PyStr) : PyStr :=
  match toolLabels.find? fun entry => some (py entry.1) = toolName with
  | some entry => py entry.2
  | none =>
    if safeToolLabel toolName = py "MCP tool" then py "扩展工具"
    else if safeToolLabel toolName = py "tool" then py "工具"
    else safeToolLabel toolName

/-- A value that is a string. -/
def stringOf : Json → Option PyStr
  | .str text => some text
  | _ => none

/-- The digits of `(\d+)\s+(?:results?|items?)`, when the whole text is of that form. -/
def resultCount (text : PyStr) : Option PyStr :=
  let digits := text.takeWhile wording.isDecimal
  let rest := text.dropWhile wording.isDecimal
  let word := rest.dropWhile CodePoint.isWhitespace
  if digits ≠ [] ∧ word.length < rest.length ∧
      word ∈ [py "result", py "results", py "item", py "items"] then some digits
  else none

/-- `localize_result_summary` -/
def localizeResultSummary (summary : PyStr) : Except RenderError (Option PyStr) :=
  match sanitizeVisibleText summary with
  | .error error => .error error
  | .ok none => .ok none
  | .ok (some clean) =>
    let lowered := wording.lower clean
    if lowered ∈ [py "complete", py "completed", py "done", py "success", py "succeeded"] then
      .ok (some (py "已完成"))
    else
      match resultCount wording lowered with
      | some digits => .ok (some (digits ++ py " 项结果"))
      | none => .ok (some clean)

def errorMaxChars : Nat := 160

/-- `sanitize_error_text` -/
def sanitizeErrorText (error : Json) : PyStr :=
  match error with
  | .str text =>
    let summary := wording.redactSummaryText (if strip text = [] then py "Error" else strip text)
    if errorMaxChars < summary.length then summary.take (errorMaxChars - 3) ++ py "..." else summary
  | _ => py "Error"

/-- A text field that is optional and is made visible. -/
def visibleField (value : Json) : Except RenderError (Option PyStr) :=
  match value with
  | .str text => sanitizeVisibleText text
  | _ => .ok none

def localizedField (value : Json) : Except RenderError (Option PyStr) :=
  match value with
  | .str text => localizeResultSummary wording text
  | _ => .ok none

end OctoChannel.Rendering

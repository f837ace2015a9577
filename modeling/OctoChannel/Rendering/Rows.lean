import OctoChannel.Rendering.Advertised

namespace OctoChannel.Rendering

open Foundation Identity Cards

/-- Members with texts and flags only. -/
def textMember (key value : String) : PyStr × Json := (py key, .str (py value))

def flagMember (key : String) (value : Bool) : PyStr × Json := (py key, .bool value)

/-- `_reasoning_text_block` -/
def reasoningTextBlock (text : PyStr) (extra : List (PyStr × Json)) : List (PyStr × Json) :=
  [(py "type", .str (py "TextBlock")), (py "text", .str (literalCardText text)),
    (py "wrap", .bool true)] ++ extra

/-- `_trace_glyph_block` -/
def traceGlyphBlock (glyph tone : PyStr) : List (PyStr × Json) :=
  reasoningTextBlock glyph [textMember "spacing" "None", (py "color", .str tone)]

/-- `_trace_status_chip` -/
def traceStatusChip (label tone : PyStr) (rich : Bool) : List (PyStr × Json) :=
  if rich then
    [(py "type", .str (py "RichTextBlock")), textMember "spacing" "None",
      textMember "horizontalAlignment" "Right",
      (py "inlines", .arr [.obj [(py "type", .str (py "TextRun")),
        (py "text", .str (literalCardText (py " " ++ label ++ py " "))), (py "color", .str tone),
        textMember "weight" "Bolder", textMember "size" "Small",
        flagMember "highlight" true]])]
  else
    reasoningTextBlock label [(py "color", .str tone), textMember "weight" "Bolder",
      textMember "size" "Small", textMember "spacing" "None",
      textMember "horizontalAlignment" "Right"]

def traceCollapseId : String := "btn_collapse_trace"
def traceExpandId : String := "btn_expand_trace"

/-- `targets` of the toggle bar: the panels and the two buttons. -/
def toggleTargets (panels : List (String × Bool)) (opening : Bool) : Json :=
  .arr ((panels.map (fun panel => (panel.1, panel.2 == opening)) ++
    [(traceCollapseId, opening), (traceExpandId, !opening)]).map fun target =>
      .obj [textMember "elementId" target.1, flagMember "isVisible" target.2])

def toggleButton (id actionId title : String) (visible : Bool) (targets : Json) :
    List (PyStr × Json) :=
  [(py "type", .str (py "ActionSet")), textMember "id" id, flagMember "isVisible" visible,
    textMember "horizontalAlignment" "Right", textMember "spacing" "Medium",
    (py "actions", .arr [.obj [(py "type", .str (py "Action.ToggleVisibility")),
      textMember "id" actionId, textMember "title" title, (py "targetElements", targets)]])]

/-- `_trace_toggle_bar` -/
def traceToggleBar (panels : List (String × Bool)) (expanded : Bool) : List Json :=
  [.obj (toggleButton traceCollapseId "trace_collapse" "收起执行详情" expanded
      (toggleTargets panels false)),
    .obj (toggleButton traceExpandId "trace_expand" "展开执行详情" (!expanded)
      (toggleTargets panels true))]

/-- `_TRACE_GLYPH_DETAILS` -/
def traceGlyphDetails : List PyStr := [py "已完成", py "进行中"]

/-- The detail, where it says more than the dot. -/
def shownDetail (detail : PyStr) : PyStr := if detail ∈ traceGlyphDetails then [] else detail

def toneMember (live : Bool) (tone : PyStr) : List (PyStr × Json) :=
  if live then [(py "color", .str tone)] else []

/-- `_trace_step_items` -/
def traceStepItems (name detail tone : PyStr) (live rich : Bool) : List Json :=
  let body := shownDetail detail
  if rich then
    [.obj [(py "type", .str (py "RichTextBlock")), textMember "spacing" "None",
      (py "inlines", .arr (.obj ([(py "type", .str (py "TextRun")),
          (py "text", .str (literalCardText name)), textMember "weight" "Bolder"] ++
          toneMember live tone) ::
        if body = [] then []
        else [.obj [(py "type", .str (py "TextRun")),
          (py "text", .str (literalCardText (py "  " ++ body))),
          textMember "fontType" "Monospace", textMember "size" "Small",
          flagMember "isSubtle" true]]))]]
  else
    .obj (reasoningTextBlock name
        ([textMember "weight" "Bolder", textMember "spacing" "None"] ++
          toneMember live tone)) ::
      if body = [] then []
      else [.obj (reasoningTextBlock body [flagMember "isSubtle" true,
        textMember "size" "Small", textMember "spacing" "None",
        textMember "fontType" "Monospace"])]

def columnElement (width : String) (items : List Json) (extra : List (PyStr × Json)) :
    List (PyStr × Json) :=
  [(py "type", .str (py "Column")), textMember "width" width, (py "items", .arr items)] ++ extra

def columnSetElement (spacing : String) (columns : List Json) : List (PyStr × Json) :=
  [(py "type", .str (py "ColumnSet")), textMember "spacing" spacing,
    (py "columns", .arr columns)]

/-- The air below a step that is not the last one. -/
def railSpacer : List (PyStr × Json) :=
  reasoningTextBlock [Fin.ofNat 0x110000 0xa0]
    [textMember "size" "Small", textMember "spacing" "None"]

/-- `_trace_row` -/
def traceRow (items : List Json) (glyph tone : PyStr) (spacing : String) (last rail : Bool) :
    List (PyStr × Json) :=
  let body := if rail && !last then items ++ [.obj railSpacer] else items
  columnSetElement spacing
    [.obj (columnElement "auto" [.obj (traceGlyphBlock glyph tone)] []),
      .obj (columnElement "stretch" body (if rail then [flagMember "separator" true] else []))]

/-- `_reasoning_action_row` -/
def reasoningActionRow (action : ReasoningAction) (last lead live rich : Bool) :
    List (PyStr × Json) :=
  traceRow (traceStepItems action.tool action.detail action.statusTone live rich)
    action.statusGlyph action.statusTone (if lead then "Medium" else "None") last true

/-- `_reasoning_summary_row` -/
def reasoningSummaryRow (text glyph tone : PyStr) (spacing : String) (last rail : Bool) :
    List (PyStr × Json) :=
  traceRow [.obj (reasoningTextBlock text [textMember "spacing" "None", (py "color", .str tone)])]
    glyph tone spacing last rail

/-- The rows of the steps; the one at the last index is the last and may be live. -/
def actionRows (rich : Bool) (leads ends live : Bool) : List ReasoningAction → List Json
  | [] => []
  | [action] => [.obj (reasoningActionRow action ends leads live rich)]
  | action :: next :: rest =>
    .obj (reasoningActionRow action false leads false rich) ::
      actionRows rich false ends live (next :: rest)

def headerColumns (title metaText : PyStr) (chip : List (PyStr × Json)) : List Json :=
  [.obj (columnElement "stretch"
      [.obj (reasoningTextBlock title [textMember "weight" "Bolder", textMember "size" "Large",
          textMember "spacing" "None"]),
        .obj (reasoningTextBlock metaText [textMember "size" "Small", flagMember "isSubtle" true,
          textMember "spacing" "Small", textMember "fontType" "Monospace"])] []),
    .obj (columnElement "auto" [.obj chip] [])]

/-- `_TRACE_TONE_STYLES` -/
def traceToneStyle (tone : PyStr) : PyStr :=
  if tone = py "Accent" then py "accent"
  else if tone = py "Attention" then py "attention"
  else if tone = py "Warning" then py "warning"
  else if tone = py "Good" then py "good"
  else py "emphasis"

def headerContainer (tone : PyStr) (columns : List Json) : List (PyStr × Json) :=
  [(py "type", .str (py "Container")), textMember "id" "octo-execution-trace-header",
    (py "style", .str (traceToneStyle tone)), flagMember "bleed" true,
    textMember "spacing" "None", (py "items", .arr [.obj (columnSetElement "None" columns)])]

def panelContainer (id spacing : String) (visible : Bool) (items : List Json) :
    List (PyStr × Json) :=
  [(py "type", .str (py "Container")), textMember "id" id, flagMember "isVisible" visible,
    textMember "spacing" spacing, (py "items", .arr items)]

/-- A trace card; its layout is named for the client. -/
def traceCard (body : List Json) : List (PyStr × Json) :=
  adaptiveCard body ++ [(py "metadata", .obj [textMember "octo_layout" "agent_progress_v1"])]

/-- The server shows the elements of a trace, and rich text if it is used. -/
structure ShowsRows (capabilities : Option CardCapabilities) (rich : Bool) : Prop where
  text : ShowsText capabilities
  container : offers capabilities CardCapabilities.elements (py "Container") = true
  columns : offers capabilities CardCapabilities.elements (py "ColumnSet") = true
  richText : rich = true →
    offers capabilities CardCapabilities.elements (py "RichTextBlock") = true

section Rows

variable {capabilities : Option CardCapabilities} {rich : Bool}

@[simp] theorem advertised_textMember (key value : String) :
    Advertised capabilities (textMember key value).2 := advertised_str _

@[simp] theorem advertised_flagMember (key : String) (value : Bool) :
    Advertised capabilities (flagMember key value).2 := advertised_bool _

theorem advertised_reasoningTextBlock (shows : ShowsText capabilities) (text : PyStr)
    {extra : List (PyStr × Json)} (inside : ∀ member ∈ extra, Advertised capabilities member.2) :
    Advertised capabilities (.obj (reasoningTextBlock text extra)) := by
  simp only [reasoningTextBlock, List.cons_append, List.nil_append]
  refine advertised_typed.mpr ⟨typeAdvertised_of_element shows (by decide), ?_⟩
  simpa using inside

private theorem advertised_statusChip (shows : ShowsRows capabilities rich) (label tone : PyStr) :
    Advertised capabilities (.obj (traceStatusChip label tone rich)) := by
  cases rich with
  | true =>
    refine advertised_typed.mpr ⟨typeAdvertised_of_element (shows.richText rfl) (by decide), ?_⟩
    simp only [List.forall_mem_cons, advertised_textMember, true_and, List.not_mem_nil,
      false_implies, implies_true, and_true]
    refine advertised_arr.mpr fun item member => ?_
    rw [List.mem_singleton] at member
    subst member
    exact advertised_typed.mpr ⟨typeAdvertised_of_other (by decide), by simp⟩
  | false => exact advertised_reasoningTextBlock shows.text label (by simp)

theorem advertised_toggleBar
    (actionSet : offers capabilities CardCapabilities.elements (py "ActionSet") = true)
    (toggles : offers capabilities CardCapabilities.actions (py "Action.ToggleVisibility") = true)
    (panels : List (String × Bool)) (expanded : Bool) :
    ∀ item ∈ traceToggleBar panels expanded, Advertised capabilities item := by
  have targets : ∀ opening, Advertised capabilities (toggleTargets panels opening) := by
    intro opening
    refine advertised_arr.mpr fun item member => ?_
    obtain ⟨target, _, rfl⟩ := List.mem_map.mp member
    have untyped : typeOf [textMember "elementId" target.1, flagMember "isVisible" target.2] =
        .null := by
      rw [typeOf, textMember, flagMember, field_next (by decide), field_next (by decide)]
      rfl
    exact (advertised_untyped untyped).mpr (by simp)
  have button : ∀ id actionId title visible opening, Advertised capabilities
      (.obj (toggleButton id actionId title visible (toggleTargets panels opening))) := by
    intro id actionId title visible opening
    refine advertised_typed.mpr ⟨typeAdvertised_of_element actionSet (by decide), ?_⟩
    simp only [List.forall_mem_cons, advertised_textMember, advertised_flagMember, true_and,
      List.not_mem_nil, false_implies, implies_true, and_true]
    refine advertised_arr.mpr fun item member => ?_
    rw [List.mem_singleton] at member
    subst member
    refine advertised_typed.mpr ⟨⟨fun element => absurd element (by decide), fun _ => toggles⟩, ?_⟩
    simp [targets]
  simp only [traceToggleBar, List.forall_mem_cons, button, List.not_mem_nil, false_implies,
    implies_true, and_true]

private theorem advertised_toneMember (live : Bool) (tone : PyStr) :
    ∀ member ∈ toneMember live tone, Advertised capabilities member.2 := by
  cases live with
  | true => simp [toneMember]
  | false => simp [toneMember]

theorem advertised_stepItems (shows : ShowsRows capabilities rich) (name detail tone : PyStr)
    (live : Bool) :
    ∀ item ∈ traceStepItems name detail tone live rich, Advertised capabilities item := by
  have tones := @advertised_toneMember capabilities live tone
  cases rich with
  | true =>
    intro item member
    simp only [traceStepItems, if_true, List.mem_singleton] at member
    subst member
    refine advertised_typed.mpr ⟨typeAdvertised_of_element (shows.richText rfl) (by decide), ?_⟩
    simp only [List.forall_mem_cons, advertised_textMember, true_and, List.not_mem_nil,
      false_implies, implies_true, and_true]
    refine advertised_arr.mpr ?_
    rw [List.forall_mem_cons]
    constructor
    · simp only [List.cons_append, List.nil_append]
      refine advertised_typed.mpr ⟨typeAdvertised_of_other (by decide), ?_⟩
      simpa using tones
    · intro run present
      split at present
      · cases present
      · rw [List.mem_singleton] at present
        subst present
        exact advertised_typed.mpr ⟨typeAdvertised_of_other (by decide), by simp⟩
  | false =>
    simp only [traceStepItems, Bool.false_eq_true, if_false, List.forall_mem_cons]
    constructor
    · exact advertised_reasoningTextBlock shows.text name (by simpa using tones)
    · intro block present
      split at present
      · cases present
      · rw [List.mem_singleton] at present
        subst present
        exact advertised_reasoningTextBlock shows.text _ (by simp)

theorem advertised_column (width : String) {items : List Json} {extra : List (PyStr × Json)}
    (inside : ∀ item ∈ items, Advertised capabilities item)
    (others : ∀ member ∈ extra, Advertised capabilities member.2) :
    Advertised capabilities (.obj (columnElement width items extra)) := by
  simp only [columnElement, List.cons_append, List.nil_append]
  refine advertised_typed.mpr ⟨typeAdvertised_of_other (by decide), ?_⟩
  simp only [List.forall_mem_cons, advertised_textMember, true_and]
  exact ⟨advertised_arr.mpr inside, others⟩

theorem advertised_columnSet (shows : ShowsRows capabilities rich) (spacing : String)
    {columns : List Json} (inside : ∀ item ∈ columns, Advertised capabilities item) :
    Advertised capabilities (.obj (columnSetElement spacing columns)) := by
  refine advertised_typed.mpr ⟨typeAdvertised_of_element shows.columns (by decide), ?_⟩
  simp only [List.forall_mem_cons, advertised_textMember, true_and, List.not_mem_nil,
    false_implies, implies_true, and_true]
  exact advertised_arr.mpr inside

theorem advertised_traceRow (shows : ShowsRows capabilities rich) {items : List Json}
    (inside : ∀ item ∈ items, Advertised capabilities item) (glyph tone : PyStr) (spacing : String)
    (last rail : Bool) :
    Advertised capabilities (.obj (traceRow items glyph tone spacing last rail)) := by
  have dot : Advertised capabilities (.obj (traceGlyphBlock glyph tone)) :=
    advertised_reasoningTextBlock shows.text glyph (by simp)
  have spacer : Advertised capabilities (.obj railSpacer) :=
    advertised_reasoningTextBlock shows.text _ (by simp)
  refine advertised_columnSet shows spacing ?_
  simp only [List.forall_mem_cons, List.not_mem_nil, false_implies, implies_true, and_true]
  constructor
  · exact advertised_column "auto" (by simpa using dot) (by simp)
  · refine advertised_column "stretch" ?_ ?_
    · split
      · intro item member
        rcases List.mem_append.mp member with own | added
        · exact inside item own
        · rw [List.mem_singleton] at added
          rwa [added]
      · exact inside
    · cases rail with
      | true => simp
      | false => simp

theorem advertised_summaryRow (shows : ShowsRows capabilities rich) (text glyph tone : PyStr)
    (spacing : String) (last rail : Bool) :
    Advertised capabilities (.obj (reasoningSummaryRow text glyph tone spacing last rail)) := by
  refine advertised_traceRow shows ?_ _ _ _ _ _
  intro item member
  rw [List.mem_singleton] at member
  subst member
  exact advertised_reasoningTextBlock shows.text text (by simp)

theorem advertised_actionRows (shows : ShowsRows capabilities rich) (leads ends live : Bool)
    (actions : List ReasoningAction) :
    ∀ item ∈ actionRows rich leads ends live actions, Advertised capabilities item := by
  have row : ∀ action last lead live, Advertised capabilities
      (.obj (reasoningActionRow action last lead live rich)) := fun action last lead live =>
    advertised_traceRow shows (advertised_stepItems shows _ _ _ live) _ _ _ _ _
  induction actions generalizing leads with
  | nil => simp [actionRows]
  | cons action rest ih =>
    cases rest with
    | nil => simpa [actionRows] using row action ends leads live
    | cons next others =>
      rw [actionRows, List.forall_mem_cons]
      exact ⟨row action false leads false, ih false⟩

theorem advertised_headerContainer (shows : ShowsRows capabilities rich)
    (title metaText label chipTone tone : PyStr) :
    Advertised capabilities (.obj (headerContainer tone
      (headerColumns title metaText (traceStatusChip label chipTone rich)))) := by
  refine advertised_typed.mpr ⟨typeAdvertised_of_element shows.container (by decide), ?_⟩
  simp only [List.forall_mem_cons, advertised_textMember, advertised_flagMember, advertised_str,
    true_and, List.not_mem_nil, false_implies, implies_true, and_true]
  refine advertised_arr.mpr fun item member => ?_
  rw [List.mem_singleton] at member
  subst member
  refine advertised_columnSet shows "None" ?_
  simp only [headerColumns, List.forall_mem_cons, List.not_mem_nil, false_implies, implies_true,
    and_true]
  constructor
  · refine advertised_column "stretch" ?_ (by simp)
    simp only [List.forall_mem_cons, List.not_mem_nil, false_implies, implies_true, and_true]
    exact ⟨advertised_reasoningTextBlock shows.text title (by simp),
      advertised_reasoningTextBlock shows.text metaText (by simp)⟩
  · exact advertised_column "auto" (by simpa using advertised_statusChip shows label chipTone)
      (by simp)

theorem advertised_panelContainer (shows : ShowsRows capabilities rich) (id spacing : String)
    (visible : Bool) {items : List Json} (inside : ∀ item ∈ items, Advertised capabilities item) :
    Advertised capabilities (.obj (panelContainer id spacing visible items)) := by
  refine advertised_typed.mpr ⟨typeAdvertised_of_element shows.container (by decide), ?_⟩
  simp only [List.forall_mem_cons, advertised_textMember, advertised_flagMember, true_and,
    List.not_mem_nil, false_implies, implies_true, and_true]
  exact advertised_arr.mpr inside

theorem advertised_traceCard {body : List Json}
    (items : ∀ item ∈ body, Advertised capabilities item) :
    Advertised capabilities (.obj (traceCard body)) := by
  have plain := advertised_obj.mp (advertised_adaptiveCard items)
  refine advertised_obj.mpr ⟨plain.1, fun member present => ?_⟩
  rcases List.mem_append.mp present with own | added
  · exact plain.2 member own
  · rw [List.mem_singleton] at added
    subst added
    exact (advertised_untyped rfl).mpr (by simp)

end Rows

end OctoChannel.Rendering

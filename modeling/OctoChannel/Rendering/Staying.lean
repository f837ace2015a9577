import OctoChannel.Rendering.Flat

namespace OctoChannel.Rendering

open Foundation Identity Cards

variable {wording : Wording}

theorem visible_append {line : PyStr} (visible : Visible line) (rest : PyStr) :
    Visible (line ++ rest) := by
  obtain ⟨point, others, rfl, shown⟩ := visible
  exact ⟨point, others ++ rest, List.cons_append, shown⟩

/-- The glyph of a step is one of the three dots. -/
def Dotted (step : ReasoningAction) : Prop := ∃ status : ToolStatus, step.statusGlyph = status.glyph

private theorem visible_glyph (status : ToolStatus) : Visible status.glyph := by
  cases status with
  | running => exact ⟨ch '◉', [], rfl, by decide⟩
  | done => exact ⟨ch '●', [], rfl, by decide⟩
  | error => exact ⟨ch '○', [], rfl, by decide⟩

private theorem progressStep_dotted {tool : Tool} {step : ReasoningAction}
    (ran : progressStep wording tool = .ok step) : Dotted step := by
  simp only [progressStep] at ran
  split_ifs at ran
  · obtain ⟨_, _, ran⟩ := ok_of_bind ran
    obtain ⟨_, _, ran⟩ := ok_of_bind ran
    obtain ⟨_, _, ran⟩ := ok_of_bind ran
    cases ran
    exact ⟨.running, rfl⟩
  · obtain ⟨_, _, ran⟩ := ok_of_bind ran
    obtain ⟨_, _, ran⟩ := ok_of_bind ran
    obtain ⟨_, _, ran⟩ := ok_of_bind ran
    cases ran
    exact ⟨.error, rfl⟩
  · obtain ⟨_, _, ran⟩ := ok_of_bind ran
    obtain ⟨_, _, ran⟩ := ok_of_bind ran
    obtain ⟨_, _, ran⟩ := ok_of_bind ran
    cases ran
    exact ⟨.done, rfl⟩

private theorem groupStep_dotted {current : Tool} {group : List Tool} {step : ReasoningAction}
    (ran : groupStep wording current group = .ok step) : Dotted step := by
  simp only [groupStep] at ran
  obtain ⟨latest, _, ran⟩ := ok_of_bind ran
  obtain ⟨label, _, ran⟩ := ok_of_bind ran
  cases ran
  exact ⟨.done, rfl⟩

private theorem progressSteps_dotted {equal : Json → Json → Bool} {skip : Nat} {tools : List Tool}
    {steps : List ReasoningAction} (ran : progressSteps wording equal skip tools = .ok steps) :
    ∀ step ∈ steps, Dotted step := by
  induction tools generalizing skip steps with
  | nil =>
    rw [progressSteps] at ran
    cases ran
    simp
  | cons current rest ih =>
    cases skip with
    | succ skip => exact ih ran
    | zero =>
      simp only [progressSteps] at ran
      split at ran
      · cases ran
      · rename_i step made
        obtain ⟨later, others, rfl⟩ := ok_of_map ran
        refine List.forall_mem_cons.mpr ⟨?_, ih others⟩
        split at made
        · exact groupStep_dotted made
        · exact progressStep_dotted made

private theorem dotted_cons {part : PyStr} (visible : part ≠ []) (others : List PyStr) :
    ∃ rest, dotted (part :: others) = part ++ rest := by
  rw [dotted, List.filter_cons_of_pos (by simpa using visible)]
  cases others.filter fun part => part ≠ [] with
  | nil => exact ⟨[], by simp [joined]⟩
  | cons next more =>
    refine ⟨py " · " ++ joined (py " · ") (next :: more), ?_⟩
    rw [joined, List.intersperse_cons_cons, List.flatten_cons, List.flatten_cons]
    rfl

/-- What is known of a run that was read. -/
structure ProgressRead (view : ProgressView) : Prop where
  header : Visible view.header
  dotted : ∀ step ∈ view.steps, Dotted step

private theorem readProgress_ok {equal : Json → Json → Bool} {phase : PyStr} {tools : List Json}
    {elapsedMs : Json} {view : ProgressView}
    (ran : readProgress wording equal phase tools elapsedMs = .ok view) : ProgressRead view := by
  rw [readProgress] at ran
  split_ifs at ran
  obtain ⟨steps, made, rfl⟩ := ok_of_map ran
  refine ⟨?_, progressSteps_dotted made⟩
  obtain ⟨rest, starts⟩ := dotted_cons (by decide : py "处理进度" ≠ []) _
  rw [progressHeader, starts]
  exact visible_append ⟨ch '处', py "理进度", rfl, by decide⟩ rest

theorem mem_ifEmpty {Item : Type} {item fallback : Item} {items : List Item}
    [Decidable (items = [])] (member : item ∈ if items = [] then [fallback] else items) :
    item = fallback ∨ item ∈ items := by
  split at member
  · exact .inl (List.mem_singleton.mp member)
  · exact .inr member

theorem ProgressRead.lines {view : ProgressView} (read : ProgressRead view) :
    ∀ line ∈ view.detailLines, Visible line := by
  have preparing : Visible (py "正在准备") := ⟨ch '正', py "在准备", rfl, by decide⟩
  have notice : Visible (hiddenNotice view.hidden) := by
    rw [hiddenNotice, List.append_assoc]
    exact visible_append ⟨ch '已', py "隐藏前 ", rfl, by decide⟩ _
  have steps : ∀ step ∈ view.steps, Visible (progressPlainLine step) := by
    intro step member
    obtain ⟨status, glyph⟩ := read.dotted step member
    rw [progressPlainLine, glyph, List.append_assoc, List.append_assoc]
    exact visible_append (visible_glyph status) _
  intro line member
  rcases mem_ifEmpty member with rfl | listed
  · exact preparing
  · rcases List.mem_append.mp listed with first | later
    · split at first
      · cases first
      · rw [List.mem_singleton] at first
        rwa [first]
    · obtain ⟨step, present, rfl⟩ := List.mem_map.mp later
      exact steps step present

private theorem offersTrace_some {capabilities : Option CardCapabilities} {trace : CardCapabilities}
    (offered : offersTrace capabilities = some trace) : capabilities = some trace ∧
      supports trace.elements (py "ColumnSet") = true ∧
      supports trace.elements (py "Container") = true := by
  rw [offersTrace, Option.filter_eq_some_iff, Bool.and_eq_true] at offered
  exact offered

private theorem canToggle_offers {capabilities : CardCapabilities}
    (toggles : canToggle capabilities = true) :
    offers (some capabilities) CardCapabilities.elements (py "ActionSet") = true ∧
      offers (some capabilities) CardCapabilities.actions (py "Action.ToggleVisibility") = true := by
  rw [canToggle, Bool.and_eq_true] at toggles
  refine ⟨toggles.1, ?_⟩
  cases listed : capabilities.actions with
  | none => simp [listed] at toggles
  | some actions =>
    have member : py "Action.ToggleVisibility" ∈ actions := by simpa [listed] using toggles.2
    simp [offers, supports, listed, member]

section Rich

variable {capabilities : Option CardCapabilities} {rich : Bool}

private theorem advertised_collapsedItems (shows : ShowsRows capabilities rich)
    (view : ProgressView)
    (detailVisible : Bool) :
    ∀ item ∈ view.collapsedItems detailVisible rich, Advertised capabilities item := by
  intro item member
  rw [ProgressView.collapsedItems] at member
  split at member
  · cases member
  · obtain ⟨step, _, rfl⟩ := List.mem_map.mp member
    exact advertised_traceRow shows (advertised_stepItems shows _ _ _ _) _ _ _ _ _

private theorem advertised_progressItems (shows : ShowsRows capabilities rich)
    (view : ProgressView) :
    ∀ item ∈ view.traceItems rich, Advertised capabilities item := by
  have subtle : ∀ text, Advertised capabilities (.obj (reasoningTextBlock text
      [flagMember "isSubtle" true, textMember "size" "Small", textMember "spacing" "None"])) :=
    fun text => advertised_reasoningTextBlock shows.text text (by simp)
  intro item member
  rcases mem_ifEmpty member with rfl | listed
  · exact subtle _
  · rcases List.mem_append.mp listed with notice | row
    · split at notice
      · cases notice
      · rw [List.mem_singleton] at notice
        rw [notice]
        exact subtle _
    · exact advertised_actionRows shows _ _ _ _ item row

/-- The two buttons are there only when the server takes them. -/
theorem advertised_toggles {toggles : Bool} (expanded : Bool) (panels : List (String × Bool))
    (allowed : toggles = true → mayToggle capabilities = true) :
    ∀ item ∈ (if toggles then traceToggleBar panels expanded else []),
      Advertised capabilities item := by
  cases toggles with
  | false => simp
  | true =>
    have may := allowed rfl
    cases capabilities with
    | none => cases may
    | some capabilities =>
      obtain ⟨actionSet, visibility⟩ := canToggle_offers may
      rw [if_pos rfl]
      exact advertised_toggleBar actionSet visibility panels expanded

private theorem advertised_progressCard {trace : CardCapabilities} (view : ProgressView)
    (shows : ShowsRows (some trace) (supports trace.elements (py "RichTextBlock"))) :
    Advertised (some trace) (.obj (view.card trace)) := by
  rw [ProgressView.card]
  refine advertised_traceCard fun item member => ?_
  rw [List.mem_append, List.mem_append] at member
  rcases member with (fixed | collapsed) | button
  · simp only [List.mem_cons, List.not_mem_nil, or_false] at fixed
    rcases fixed with rfl | rfl
    · exact advertised_headerContainer shows _ _ _ _ _
    · exact advertised_panelContainer shows _ _ _ (advertised_progressItems shows view)
  · split at collapsed
    · cases collapsed
    · rw [List.mem_singleton] at collapsed
      rw [collapsed]
      exact advertised_panelContainer shows _ _ _ (advertised_collapsedItems shows view _)
  · exact advertised_toggles _ _ (fun toggles => toggles) item button

theorem advertised_phaseBlock (shows : ShowsRows capabilities rich) (phase : ReasoningPhase)
    (first tail live : Bool) :
    Advertised capabilities (.obj (reasoningPhaseBlock phase first tail live rich)) := by
  refine advertised_typed.mpr ⟨typeAdvertised_of_element shows.container (by decide), ?_⟩
  simp only [List.forall_mem_cons, advertised_textMember, advertised_flagMember, true_and,
    List.not_mem_nil, false_implies, implies_true, and_true]
  refine advertised_arr.mpr fun item member => ?_
  rcases List.mem_append.mp member with thought | row
  · split at thought
    · rw [List.mem_singleton] at thought
      rw [thought]
      exact advertised_reasoningTextBlock shows.text _ (by simp)
    · cases thought
  · exact advertised_actionRows shows _ _ _ _ item row

private theorem advertised_phaseBlocks (shows : ShowsRows capabilities rich)
    (tail live first : Bool)
    (phases : List ReasoningPhase) :
    ∀ item ∈ phaseBlocks rich tail live first phases, Advertised capabilities item := by
  induction phases generalizing first with
  | nil => simp [phaseBlocks]
  | cons phase rest ih =>
    cases rest with
    | nil => simpa [phaseBlocks] using advertised_phaseBlock shows phase first tail live
    | cons next others =>
      rw [phaseBlocks, List.forall_mem_cons]
      exact ⟨advertised_phaseBlock shows phase first false false, ih false⟩

private theorem advertised_reasoningItems (shows : ShowsRows capabilities rich)
    (view : ReasoningView) :
    ∀ item ∈ view.traceItems rich, Advertised capabilities item := by
  have row : ∀ text glyph tone last, Advertised capabilities
      (.obj (reasoningSummaryRow text glyph tone "None" last true)) :=
    fun text glyph tone last => advertised_summaryRow shows text glyph tone "None" last true
  intro item member
  rw [ReasoningView.traceItems, List.mem_append, List.mem_append] at member
  rcases member with (phase | progress) | error
  · exact advertised_phaseBlocks shows _ _ _ _ item phase
  · split at progress
    · cases progress
    · rw [List.mem_singleton] at progress
      rw [progress]
      exact row _ _ _ _
  · split at error
    · cases error
    · rw [List.mem_singleton] at error
      rw [error]
      exact row _ _ _ _

private theorem advertised_collapsedRow (shows : ShowsRows capabilities rich)
    (view : ReasoningView) :
    Advertised capabilities (.obj (view.collapsedRow rich)) := by
  rw [ReasoningView.collapsedRow]
  split
  · exact advertised_traceRow shows (advertised_stepItems shows _ _ _ _) _ _ _ _ _
  · exact advertised_summaryRow shows _ _ _ _ _ _

private theorem advertised_reasoningCard (view : ReasoningView)
    (shows : ShowsRows capabilities
      (offers capabilities CardCapabilities.elements (py "RichTextBlock"))) :
    Advertised capabilities (.obj (view.card capabilities)) := by
  rw [ReasoningView.card]
  refine advertised_traceCard fun item member => ?_
  rw [List.mem_append] at member
  rcases member with fixed | button
  · simp only [List.mem_cons, List.not_mem_nil, or_false] at fixed
    rcases fixed with rfl | rfl | rfl
    · exact advertised_headerContainer shows _ _ _ _ _
    · exact advertised_panelContainer shows _ _ _ (advertised_reasoningItems shows view)
    · refine advertised_panelContainer shows _ _ _ ?_
      simpa using advertised_collapsedRow shows view
  · exact advertised_toggles _ _ (fun toggles => toggles) item button

end Rich

section Staying

variable {urls : CardUrls} {equal : Json → Json → Bool} {capabilities : Option CardCapabilities}

/-- The rich form of a progress card is offered and keeps the limits. -/
def RichFits (capabilities : Option CardCapabilities) (view : ProgressView) : Prop :=
  ∃ trace, offersTrace capabilities = some trace ∧
    WithinLimits (view.card trace) view.plain capabilities cardProfileV1

/-- The lines of a run fit twice: without their extra white space in the blocks of a card, and
as they are in its plain text. -/
def LinesFit (capabilities : Option CardCapabilities) (view : ProgressView) : Prop :=
  (flatBytes view.header view.detailLines : Int) ≤
    limitOf capabilities CardCapabilities.maxPayloadBytes defaultMaxCardPayloadBytes

private theorem flatCard_stays_iff {view : ProgressView} (read : ProgressRead view)
    {flat : CardRenderResult}
    (built : buildDisplayCard urls (view.detailLines.map textBlock) (.str view.header)
      capabilities = .ok flat) :
    StaysWithin capabilities ⟨flat.card, view.plain⟩ ↔ LinesFit capabilities view := by
  obtain ⟨_, card, encodable⟩ := displayLines_ok read.header read.lines built
  have stays := displayCard_stays built
  have limits := stays.limits
  rw [card] at limits
  rw [LinesFit, ← flatLimits_iff encodable limits]
  constructor
  · intro keeps
    have kept := keeps.limits
    dsimp only at kept
    rwa [card] at kept
  · intro kept
    refine ⟨stays.advertised, ?_⟩
    dsimp only
    rwa [card]

private theorem progressCard_stays_iff {phase : PyStr} {tools : List Json} {elapsedMs : Json}
    {result : CardRenderResult}
    (built : buildProgressCard wording urls equal phase tools elapsedMs capabilities = .ok result) :
    ∃ view, readProgress wording equal phase tools elapsedMs = .ok view ∧
      (StaysWithin capabilities result ↔ RichFits capabilities view ∨ LinesFit capabilities view) := by
  cases ran : readProgress wording equal phase tools elapsedMs with
  | error error => simp [buildProgressCard, ran] at built
  | ok view =>
    have read := readProgress_ok ran
    cases shown : buildDisplayCard urls (view.detailLines.map textBlock) (.str view.header)
        capabilities with
    | error error => simp [buildProgressCard, ran, shown] at built
    | ok flat =>
      have fallen := flatCard_stays_iff read shown
      simp only [buildProgressCard, ran, shown] at built
      refine ⟨view, rfl, ?_⟩
      cases offered : offersTrace capabilities with
      | none =>
        have never : ¬ RichFits capabilities view := by
          rintro ⟨trace, known, _⟩
          cases offered.symm.trans known
        simp only [offered, Except.ok.injEq] at built
        subst built
        rw [or_iff_right never]
        exact fallen
      | some trace =>
        cases checked : validateCardLimits (view.card trace) view.plain capabilities
            cardProfileV1 with
        | ok passed =>
          simp only [offered, checked, Except.ok.injEq] at built
          subst built
          have fits := validateCardLimits_ok.mp checked
          refine iff_of_true ⟨?_, fits⟩ (.inl ⟨trace, offered, fits⟩)
          obtain ⟨rfl, columns, container⟩ := offersTrace_some offered
          have text := (displayLines_ok read.header read.lines shown).1
          exact advertised_progressCard view ⟨text, container, columns, fun rich => rich⟩
        | error error =>
          have never : ¬ RichFits capabilities view := by
            rintro ⟨other, known, fits⟩
            cases offered.symm.trans known
            cases checked.symm.trans (validateCardLimits_ok.mpr fits)
          cases error with
          | cardLimit message =>
            simp only [offered, checked, Except.ok.injEq] at built
            subst built
            rw [or_iff_right never]
            exact fallen
          | other error => simp [offered, checked] at built

/-- The reasoning card itself is offered and keeps the limits. -/
def ReasoningFits (wording : Wording) (phase : PyStr) (tools : List Json) (elapsedMs : Json)
    (reasoningId : PyStr) (capabilities : Option CardCapabilities) : Prop :=
  offersReasoning capabilities = true ∧ ∃ view,
    readReasoning wording phase tools elapsedMs reasoningId = .ok view ∧
      WithinLimits (view.card capabilities) view.plain capabilities cardProfileV1

private theorem offersReasoning_shows (offered : offersReasoning capabilities = true) :
    ShowsRows capabilities
      (offers capabilities CardCapabilities.elements (py "RichTextBlock")) := by
  simp only [offersReasoning, List.all_cons, List.all_nil, Bool.and_true, Bool.and_eq_true]
    at offered
  exact ⟨offered.1, offered.2.1, offered.2.2, fun rich => rich⟩

/-- A reasoning card is one that fits, or the progress card in its place. -/
private theorem reasoningCard_cases {phase : PyStr} {tools : List Json} {elapsedMs : Json}
    {reasoningId : PyStr} {result : CardRenderResult}
    (built : buildReasoningProcessCard wording urls equal phase tools elapsedMs reasoningId
      capabilities = .ok result) :
    (ReasoningFits wording phase tools elapsedMs reasoningId capabilities ∧
      StaysWithin capabilities result) ∨
    (¬ ReasoningFits wording phase tools elapsedMs reasoningId capabilities ∧
      buildProgressCard wording urls equal (fallbackPhase phase) tools .null capabilities =
        .ok result) := by
  rw [buildReasoningProcessCard] at built
  by_cases offered : offersReasoning capabilities = true
  · rw [if_neg (by simp [offered])] at built
    cases ran : readReasoning wording phase tools elapsedMs reasoningId with
    | error error => simp [ran] at built
    | ok view =>
      cases checked : validateCardLimits (view.card capabilities) view.plain capabilities
          cardProfileV1 with
      | ok passed =>
        simp only [ran, checked, Except.ok.injEq] at built
        subst built
        have fits := validateCardLimits_ok.mp checked
        exact .inl ⟨⟨offered, view, ran, fits⟩,
          advertised_reasoningCard view (offersReasoning_shows offered), fits⟩
      | error error =>
        cases error with
        | cardLimit message =>
          simp only [ran, checked] at built
          refine .inr ⟨?_, built⟩
          rintro ⟨_, other, known, fits⟩
          cases ran.symm.trans known
          cases checked.symm.trans (validateCardLimits_ok.mpr fits)
        | other error => simp [ran, checked] at built
  · rw [if_pos (by simpa using offered)] at built
    exact .inr ⟨fun fits => offered fits.1, built⟩

end Staying

/-- A call of one of the renderers. -/
inductive CardRequest where
  | display (blocks : List Json) (title : Json)
  | progress (phase : PyStr) (tools : List Json) (elapsedMs : Json)
  | reasoning (phase : PyStr) (tools : List Json) (elapsedMs : Json) (reasoningId : PyStr)

namespace CardRequest

variable (wording : Wording) (urls : CardUrls) (equal : Json → Json → Bool)

def render (capabilities : Option CardCapabilities) : CardRequest →
    Except RenderError CardRenderResult
  | .display blocks title => buildDisplayCard urls blocks title capabilities
  | .progress phase tools elapsedMs =>
    buildProgressCard wording urls equal phase tools elapsedMs capabilities
  | .reasoning phase tools elapsedMs reasoningId =>
    buildReasoningProcessCard wording urls equal phase tools elapsedMs reasoningId capabilities

/-- The plain text is the same for other capabilities, which only a display card promises. -/
def PlainFixed (result : CardRenderResult) : CardRequest → Prop
  | .display blocks title => ∀ capabilities other,
      buildDisplayCard urls blocks title capabilities = .ok other → other.plain = result.plain
  | .progress .. | .reasoning .. => True

/-- The run of a progress card is shown in its rich form, or its lines fit. -/
def RunFits (phase : PyStr) (tools : List Json) (elapsedMs : Json)
    (capabilities : Option CardCapabilities) : Prop :=
  ∃ view, readProgress wording equal phase tools elapsedMs = .ok view ∧
    (RichFits capabilities view ∨ LinesFit capabilities view)

/-- Only the lines of a progress card can be too long for it. -/
def Fits (capabilities : Option CardCapabilities) : CardRequest → Prop
  | .display _ _ => True
  | .progress phase tools elapsedMs => RunFits wording equal phase tools elapsedMs capabilities
  | .reasoning phase tools elapsedMs reasoningId =>
    ReasoningFits wording phase tools elapsedMs reasoningId capabilities ∨
      RunFits wording equal (fallbackPhase phase) tools .null capabilities

theorem runFits_iff {wording : Wording} {urls : CardUrls} {equal : Json → Json → Bool}
    {phase : PyStr} {tools : List Json} {elapsedMs : Json}
    {capabilities : Option CardCapabilities} {result : CardRenderResult}
    (built : buildProgressCard wording urls equal phase tools elapsedMs capabilities = .ok result) :
    StaysWithin capabilities result ↔ RunFits wording equal phase tools elapsedMs capabilities := by
  obtain ⟨view, ran, exact_iff⟩ := progressCard_stays_iff built
  rw [exact_iff]
  constructor
  · intro fits
    exact ⟨view, ran, fits⟩
  · rintro ⟨other, known, fits⟩
    cases ran.symm.trans known
    exact fits

/-- A rendered card stays within the capabilities exactly when it is no flat progress card with
lines that are too long. -/
theorem renderedCard_stays_iff {wording : Wording} {urls : CardUrls} {equal : Json → Json → Bool}
    {capabilities : Option CardCapabilities} {request : CardRequest} {result : CardRenderResult}
    (built : request.render wording urls equal capabilities = .ok result) :
    StaysWithin capabilities result ∧ request.PlainFixed urls result ↔
      request.Fits wording equal capabilities := by
  cases request with
  | display blocks title =>
    refine iff_of_true ⟨displayCard_stays built, ?_⟩ trivial
    intro others other again
    exact displayCard_plain again built
  | progress phase tools elapsedMs =>
    exact (and_iff_left trivial).trans (runFits_iff built)
  | reasoning phase tools elapsedMs reasoningId =>
    refine (and_iff_left trivial).trans ?_
    rw [Fits]
    rcases reasoningCard_cases built with ⟨fits, stays⟩ | ⟨never, fallen⟩
    · exact iff_of_true stays (.inl fits)
    · rw [or_iff_right never]
      exact runFits_iff fallen

/-- A server that shows text only, and little of it. -/
def textOnly : CardCapabilities where
  authoritative := false
  enabled := true
  elements := some [py "TextBlock"]
  inputs := none
  actions := none
  profiles := none
  cardVersion := none
  maxNodes := none
  maxDepth := none
  maxPayloadBytes := some 494
  maxInputTextBytes := none
  maxInputsBytes := none

/-- A run whose only tool failed with an error of several lines. -/
def brokenRun : CardRequest :=
  .progress (py "failed") [.obj [(py "tool_name", .str (py "read_file")),
    (py "status", .str (py "failed")), (py "error", .str (py "no\n\n\nsuch file"))]] .null

def sampleUrls : CardUrls := ⟨fun _ => .ok [], fun _ => none, .ok⟩

def renderBroken : Except RenderError CardRenderResult :=
  brokenRun.render plainWording sampleUrls (fun _ _ => false) (some textOnly)

theorem renderBroken_fails : renderBroken.toOption.any (fun result =>
    !(validateCardLimits result.card result.plain (some textOnly) cardProfileV1).isOk) = true := by
  decide +kernel

theorem renderedCard_stays_iff_broken : ∃ result, renderBroken = .ok result ∧
    (StaysWithin (some textOnly) result ∧ brokenRun.PlainFixed sampleUrls result ↔
      brokenRun.Fits plainWording (fun _ _ => false) (some textOnly)) := by
  have fails := renderBroken_fails
  cases ran : renderBroken with
  | error error => simp [ran, Except.toOption] at fails
  | ok result => exact ⟨result, rfl, renderedCard_stays_iff ran⟩

/-- The card that is returned was checked with another text than the one that goes with it. -/
theorem brokenRun_tooLarge : ∃ result, renderBroken = .ok result ∧
    ¬ StaysWithin (some textOnly) result := by
  have fails := renderBroken_fails
  cases ran : renderBroken with
  | error error => simp [ran, Except.toOption] at fails
  | ok result =>
    refine ⟨result, rfl, fun stays => ?_⟩
    have passed := validateCardLimits_ok.mpr stays.limits
    simp [ran, Except.toOption, passed, Except.isOk, Except.toBool] at fails

end CardRequest

end OctoChannel.Rendering

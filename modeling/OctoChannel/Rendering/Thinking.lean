import OctoChannel.Rendering.Outline

/-! Which status a thinking step without tools shows: its own, unless older entries were cut
off and the list starts with a real tool. -/

namespace OctoChannel.Rendering

open Foundation Identity Cards

variable (wording : Wording)

/-- A list that starts with a real tool. -/
def startsWithTool : List Json → Bool
  | [] => false
  | tool :: _ => !isThinkingStep tool

/-- No real tool before the next thinking step. -/
def staysEmpty (after : List Json) : Bool := !startsWithTool after

/-- The index of the phase that a thinking step after these tools opens. -/
def phaseIndex (before : List Json) : Nat :=
  before.countP isThinkingStep + if startsWithTool before then 1 else 0

/-- The phase carries one action, synthesised from this step. -/
def ShowsStep (step : Tool) (phase : ReasoningPhase) : Prop :=
  ∃ action, synthesizedAction wording (some step) = .ok action ∧ phase.actions = [action]

/-- Every phase of a thinking step without tools shows that very step. -/
def ShowsOwnStatus (tools : List Json) (phases : List ReasoningPhase) : Prop :=
  ∀ before step after, tools = before ++ .obj step :: after → isThinking step = true →
    staysEmpty after = true →
    ∃ phase, phases[phaseIndex before]? = some phase ∧ ShowsStep wording step phase

/-- How a step reads: its status and its duration. -/
def reading (step : Tool) : Except RenderError (ToolStatus × PyStr) :=
  (reasoningStatus step).map fun status =>
    (status, formatProgressDuration wording (Json.field (py "duration_ms") step))

/-- The entry right behind a step. -/
def nextStep : List Json → Option Tool
  | .obj next :: _ => some next
  | _ => none

/-- The step reads as the entry behind it, or as done without a duration at the end. -/
def ReadsAsNext (step : Tool) (after : List Json) : Prop :=
  reading wording step = ((nextStep after).map (reading wording)).getD (.ok (.done, []))

/-- Every empty thinking step reads as the one behind it. -/
def StepsReadAlike (tools : List Json) : Prop :=
  ∀ before step after, tools = before ++ .obj step :: after → isThinking step = true →
    staysEmpty after = true → ReadsAsNext wording step after

variable {wording}

theorem synthesizedAction_some (step : Tool) :
    synthesizedAction wording (some step) =
      (reading wording step).map fun read => stepAction read.1 read.2 := by
  cases status : reasoningStatus step with
  | error error => simp [synthesizedAction, reading, status, Except.map]
  | ok status' => simp [synthesizedAction, reading, status, Except.map]

private theorem synthesizedAction_none :
    synthesizedAction wording none = .ok (stepAction .done []) := rfl

private theorem glyph_injective {status other : ToolStatus} (same : status.glyph = other.glyph) :
    status = other := by
  cases status <;> cases other <;> first | rfl | exact absurd same (by decide)

private theorem timed_injective {detail duration other : PyStr}
    (same : timed detail duration = timed detail other) : duration = other := by
  have lengths := congrArg List.length same
  by_cases none : duration = [] <;> by_cases noOther : other = []
  · rw [none, noOther]
  · simp [timed, none, noOther, py] at lengths
  · simp [timed, none, noOther, py] at lengths
  · simpa [timed, none, noOther] using same

theorem stepAction_injective {status other : ToolStatus} {duration otherDuration : PyStr}
    (same : stepAction status duration = stepAction other otherDuration) :
    (status, duration) = (other, otherDuration) := by
  obtain rfl : status = other := glyph_injective (congrArg ReasoningAction.statusGlyph same)
  rw [timed_injective (congrArg ReasoningAction.detail same)]

/-- An action stands for a step when it was made from another one that reads alike. -/
theorem synthesizedAction_eq_iff {step : Tool} {shown : Option Tool} {action : ReasoningAction}
    {status : ToolStatus} (supported : reasoningStatus step = .ok status)
    (made : synthesizedAction wording shown = .ok action) :
    synthesizedAction wording (some step) = .ok action ↔
      reading wording step = (shown.map (reading wording)).getD (.ok (.done, [])) := by
  have own : reading wording step =
      .ok (status, formatProgressDuration wording (Json.field (py "duration_ms") step)) := by
    rw [reading, supported]
    rfl
  cases shown with
  | none =>
    rw [synthesizedAction_none, Except.ok.injEq] at made
    rw [synthesizedAction_some, own]
    simp only [Except.map, Except.ok.injEq, ← made, Option.map_none, Option.getD_none]
    exact ⟨stepAction_injective, fun same => by rw [Prod.mk.injEq] at same; rw [same.1, same.2]⟩
  | some other =>
    rw [synthesizedAction_some] at made
    rw [synthesizedAction_some, own]
    cases read : reading wording other with
    | error error => simp [read, Except.map] at made
    | ok shown =>
      simp only [read, Except.map, Except.ok.injEq] at made
      simp only [Except.map, Except.ok.injEq, ← made, Option.map_some, read, Option.getD_some]
      exact ⟨stepAction_injective, fun same => by rw [← same]⟩

private theorem synthesizeFrom_cons {steps : List Tool} {start : Nat} {first : ReasoningPhase}
    {rest filled : List ReasoningPhase}
    (ran : synthesizeFrom wording steps start (first :: rest) = .ok filled) :
    ∃ head tail, filled = head :: tail ∧
      (if first.actions ≠ [] then Except.ok first
        else (synthesizedAction wording steps[start]?).map fun action =>
          { first with actions := [action] }) = .ok head ∧
      synthesizeFrom wording steps (start + 1) rest = .ok tail := by
  rw [synthesizeFrom] at ran
  revert ran
  generalize (if first.actions ≠ [] then Except.ok first
    else (synthesizedAction wording steps[start]?).map fun action =>
      { first with actions := [action] }) = head
  intro ran
  cases head with
  | error error => simp at ran
  | ok head =>
    cases later : synthesizeFrom wording steps (start + 1) rest with
    | error error => simp [later, Except.map] at ran
    | ok tail =>
      simp only [later, Except.map, Except.ok.injEq] at ran
      exact ⟨head, tail, ran.symm, rfl, rfl⟩

private theorem synthesizeFrom_get {steps : List Tool} {start index : Nat}
    {phases filled : List ReasoningPhase} {phase : ReasoningPhase}
    (ran : synthesizeFrom wording steps start phases = .ok filled)
    (found : phases[index]? = some phase) (empty : phase.actions = []) :
    ∃ action, synthesizedAction wording steps[start + index]? = .ok action ∧
      filled[index]? = some { phase with actions := [action] } := by
  induction phases generalizing start index filled with
  | nil => simp at found
  | cons first rest ih =>
    obtain ⟨head, tail, rfl, made, later⟩ := synthesizeFrom_cons ran
    cases index with
    | zero =>
      obtain rfl : first = phase := by simpa using found
      simp only [empty] at made
      cases acted : synthesizedAction wording steps[start]? with
      | error error => simp [acted, Except.map] at made
      | ok action =>
        simp only [acted, Except.map, ne_eq, not_true_eq_false, if_false, Except.ok.injEq] at made
        exact ⟨action, rfl, by simp [made]⟩
    | succ index =>
      have next := ih later (by simpa using found)
      simpa [Nat.add_assoc, Nat.add_comm 1] using next

theorem thinkingSteps_length {tools : List Json} {entries : List Entry}
    (reads : Reads wording tools entries) :
    (thinkingSteps entries).length = tools.countP isThinkingStep := by
  induction tools generalizing entries with
  | nil => simp [show entries = [] from List.map_eq_nil_iff.mp reads.symm]
  | cons tool rest ih =>
    obtain ⟨entry, later, rfl, read, readsRest⟩ := reads.cons_inv
    have thinking := isThinkingStep_of_read read
    have counted := ih readsRest
    cases entry with
    | inl step => simp [thinking, counted]
    | inr action => simp [thinking, counted]

theorem headed_length (entries : List Entry) :
    (headed entries).length = (thinkingSteps entries).length := by
  induction entries with
  | nil => rfl
  | cons entry rest ih =>
    cases entry with
    | inl step => simp [headed, ih]
    | inr action => simp [headed, ih]

theorem leadItems_isEmpty {tools : List Json} {entries : List Entry}
    (reads : Reads wording tools entries) :
    (leadItems entries).isEmpty = staysEmpty tools := by
  cases tools with
  | nil => simp [show entries = [] from List.map_eq_nil_iff.mp reads.symm, leadItems, staysEmpty,
      startsWithTool]
  | cons tool rest =>
    obtain ⟨entry, later, rfl, read, _⟩ := reads.cons_inv
    have thinking := isThinkingStep_of_read read
    cases entry <;> simp [leadItems, staysEmpty, startsWithTool, thinking]

/-- So many phases there are before a step opens its own. -/
private theorem outline_length {tools : List Json} {entries : List Entry}
    (reads : Reads wording tools entries) :
    (outline noThinking entries).length = phaseIndex tools := by
  have lead := leadItems_isEmpty reads
  simp only [outline, phaseIndex, lead, staysEmpty]
  by_cases tool : startsWithTool tools
  · simp [tool, headed_length, thinkingSteps_length reads]
  · simp [tool, headed_length, thinkingSteps_length reads]

/-- A thinking step in a readable list, with the entries around it. -/
theorem Reads.around {before after : List Json} {step : Tool} {entries : List Entry}
    (reads : Reads wording (before ++ .obj step :: after) entries)
    (thinking : isThinking step = true) :
    ∃ front thought back status, entries = front ++ .inl (thought, step) :: back ∧
      Reads wording before front ∧ Reads wording after back ∧
      reasoningStatus step = .ok status := by
  obtain ⟨front, rest, rfl, readsBefore, readsRest⟩ := reads.split
  obtain ⟨entry, back, rfl, read, readsAfter⟩ := readsRest.cons_inv
  cases entry with
  | inr action =>
    obtain ⟨fields, same, real, _⟩ := readEntry_action read
    rw [Json.obj.inj same, real] at thinking
    cases thinking
  | inl headed =>
    obtain ⟨thought, other⟩ := headed
    obtain ⟨same, _, ⟨status, supported⟩, _⟩ := readEntry_thinking read
    obtain rfl : step = other := Json.obj.inj same
    exact ⟨front, thought, back, status, rfl, readsBefore, readsAfter, supported⟩

/-- The step that the code finds for the phase with this index. -/
def shownStep (tools : List Json) (step : Tool) (after : List Json) : Option Tool :=
  if startsWithTool tools then nextStep after else some step

private theorem thinkingSteps_head {after : List Json} {back : List Entry}
    (reads : Reads wording after back) (empty : staysEmpty after = true) :
    (thinkingSteps back)[0]? = nextStep after := by
  cases after with
  | nil => simp [show back = [] from List.map_eq_nil_iff.mp reads.symm, nextStep]
  | cons tool rest =>
    obtain ⟨entry, later, rfl, read, _⟩ := reads.cons_inv
    have thinking := isThinkingStep_of_read read
    cases entry with
    | inr action => simp [staysEmpty, startsWithTool, thinking] at empty
    | inl headed =>
      obtain ⟨rfl, _⟩ := readEntry_thinking read
      simp [nextStep]

/-- Tools before the first thinking step put the index one step too far. -/
private theorem thinkingSteps_get {before after : List Json} {step : Tool} {front back : List Entry}
    {thought : PyStr} (thinking : isThinking step = true)
    (readsBefore : Reads wording before front) (readsAfter : Reads wording after back)
    (empty : staysEmpty after = true) :
    (thinkingSteps (front ++ .inl (thought, step) :: back))[phaseIndex before]? =
      shownStep (before ++ .obj step :: after) step after := by
  have split : thinkingSteps (front ++ .inl (thought, step) :: back) =
      thinkingSteps front ++ step :: thinkingSteps back := by
    rw [thinkingSteps_append, thinkingSteps_step]
  have starts : startsWithTool (before ++ .obj step :: after) = startsWithTool before := by
    cases before with
    | nil => simp [startsWithTool, isThinkingStep, thinking]
    | cons first rest => rfl
  rw [split, shownStep, starts, phaseIndex, ← thinkingSteps_length readsBefore]
  by_cases tool : startsWithTool before
  · rw [if_pos tool, if_pos tool, List.getElem?_append_right (Nat.le_add_right _ _),
      Nat.add_sub_cancel_left, List.getElem?_cons_succ, thinkingSteps_head readsAfter empty]
  · rw [if_neg tool, if_neg tool, List.getElem?_append_right (Nat.le_add_right _ _),
      Nat.add_zero, Nat.sub_self, List.getElem?_cons_zero]

/-- An empty thinking step shows the step that is found at the index of its phase. -/
theorem emptyStep_shows {tools before after : List Json} {step : Tool}
    {phases : List ReasoningPhase} (grouped : reasoningPhases wording tools true = .ok phases)
    (cut : tools = before ++ .obj step :: after) (thinking : isThinking step = true)
    (empty : staysEmpty after = true) :
    ∃ status phase action, reasoningStatus step = .ok status ∧
      phases[phaseIndex before]? = some phase ∧ phase.actions = [action] ∧
      synthesizedAction wording (shownStep tools step after) = .ok action := by
  cases ran : groupTools wording ⟨[], []⟩ tools with
  | error error => simp [reasoningPhases, ran] at grouped
  | ok grouping =>
    obtain ⟨entries, reads, outlined, steps⟩ := groupTools_outline ran
    subst cut
    obtain ⟨front, thought, back, status, rfl, readsBefore, readsAfter, supported⟩ :=
      reads.around thinking
    rw [outline_append_heading] at outlined
    have lead : leadItems back = [] := by
      rw [← List.isEmpty_iff, leadItems_isEmpty readsAfter, empty]
    have opened : grouping.phases[phaseIndex before]? = some ⟨thought, []⟩ := by
      rw [outlined, ← outline_length readsBefore]
      simp [ReasoningPhase.ofSection, lead]
    have some : grouping.phases ≠ [] := by
      intro none
      simp [none] at opened
    simp only [reasoningPhases, ran, some, if_false, if_true] at grouped
    obtain ⟨action, made, found⟩ := synthesizeFrom_get grouped opened rfl
    rw [steps, Nat.zero_add,
      thinkingSteps_get thinking readsBefore readsAfter empty] at made
    exact ⟨status, _, action, supported, found, rfl, made⟩

/-- Thinking steps show their own status exactly when the list starts with a thinking step, or
every step without tools reads as the entry behind it. -/
theorem ownStatus_iff {tools : List Json} {phases : List ReasoningPhase}
    (grouped : reasoningPhases wording tools true = .ok phases) :
    ShowsOwnStatus wording tools phases ↔
      (startsWithTool tools = true → StepsReadAlike wording tools) := by
  constructor
  · intro own starts before step after cut thinking empty
    obtain ⟨status, phase, action, supported, found, carried, made⟩ :=
      emptyStep_shows grouped cut thinking empty
    obtain ⟨same, foundSame, shown, ofStep, carries⟩ := own before step after cut thinking empty
    obtain rfl : phase = same := Option.some.inj (found.symm.trans foundSame)
    obtain rfl : action = shown := List.singleton_inj.mp (carried.symm.trans carries)
    have read := (synthesizedAction_eq_iff supported made).mp ofStep
    rwa [shownStep, if_pos starts] at read
  · intro alike before step after cut thinking empty
    obtain ⟨status, phase, action, supported, found, carried, made⟩ :=
      emptyStep_shows grouped cut thinking empty
    refine ⟨phase, found, action, (synthesizedAction_eq_iff supported made).mpr ?_, carried⟩
    rw [shownStep]
    by_cases starts : startsWithTool tools
    · rw [if_pos starts]
      exact alike starts before step after cut thinking empty
    · rw [if_neg starts]
      rfl

/-- A finished read whose thinking step was cut off. -/
def cutRead : Tool := [(py "tool_name", .str (py "read")), (py "status", .str (py "done"))]

/-- A step that still runs. -/
def runningStep : Tool :=
  [(py "tool_name", .str (py "__thinking__")), (py "status", .str (py "running"))]

def cutPhases : List ReasoningPhase :=
  [⟨reasoningFallbackThought, [⟨py "读取文件", py "已完成", py "●", py "Good"⟩]⟩,
    ⟨reasoningFallbackThought, [stepAction .done []]⟩]

private theorem reasoningPhases_cut :
    reasoningPhases plainWording [.obj cutRead, .obj runningStep] true = .ok cutPhases := rfl

theorem ownStatus_iff_cut :
    ShowsOwnStatus plainWording [.obj cutRead, .obj runningStep] cutPhases ↔
      (startsWithTool [.obj cutRead, .obj runningStep] = true →
        StepsReadAlike plainWording [.obj cutRead, .obj runningStep]) :=
  ownStatus_iff reasoningPhases_cut

/-- The running step is shown as done. -/
theorem cutTools_showDone :
    reasoningPhases plainWording [.obj cutRead, .obj runningStep] true = .ok cutPhases ∧
      ¬ ShowsOwnStatus plainWording [.obj cutRead, .obj runningStep] cutPhases := by
  refine ⟨rfl, ?_⟩
  intro own
  obtain ⟨phase, found, action, ofStep, carried⟩ :=
    own [.obj cutRead] runningStep [] rfl (by decide) rfl
  have shown : phase = ⟨reasoningFallbackThought, [stepAction .done []]⟩ :=
    (Option.some.inj found).symm
  have running : action = stepAction .running [] := (Except.ok.inj ofStep).symm
  rw [shown, running] at carried
  exact absurd (List.singleton_inj.mp carried) (by decide)

end OctoChannel.Rendering

import OctoChannel.Rendering.Phases

namespace OctoChannel.Rendering

open Foundation Identity Cards

variable (wording : Wording)

/-- A thinking step with its thought, or the action of a real tool. -/
abbrev Entry := (PyStr × Tool) ⊕ ReasoningAction

def readEntry : Json → Except RenderError Entry
  | .obj tool =>
    if isThinking tool then
      match reasoningStatus tool, sanitizeReasoningThought (Json.field (py "thought") tool) with
      | .error error, _ => .error error
      | .ok _, .error error => .error error
      | .ok _, .ok thought => .ok (.inl (thought, tool))
    else (reasoningAction wording tool).map .inr
  | _ => .error (.valueError "progress tool entries must be objects")

/-- The tools read as these entries. -/
def Reads (tools : List Json) (entries : List Entry) : Prop :=
  tools.map (readEntry wording) = entries.map .ok

/-- A thinking step among the tools. -/
def isThinkingStep : Json → Bool
  | .obj tool => isThinking tool
  | _ => false

variable {wording}

theorem readEntry_thinking {tool : Json} {thought : PyStr} {step : Tool}
    (read : readEntry wording tool = .ok (.inl (thought, step))) :
    tool = .obj step ∧ isThinking step = true ∧ (∃ status, reasoningStatus step = .ok status) ∧
      sanitizeReasoningThought (Json.field (py "thought") step) = .ok thought := by
  cases tool with
  | obj fields =>
    by_cases thinking : isThinking fields
    · cases status : reasoningStatus fields with
      | error error => simp [readEntry, thinking, status] at read
      | ok status' =>
        cases sanitized : sanitizeReasoningThought (Json.field (py "thought") fields) with
        | error error => simp [readEntry, thinking, status, sanitized] at read
        | ok thought' =>
          simp only [readEntry, thinking, status, sanitized, if_true, Except.ok.injEq,
            Sum.inl.injEq, Prod.mk.injEq] at read
          obtain ⟨rfl, rfl⟩ := read
          exact ⟨rfl, thinking, ⟨status', status⟩, sanitized⟩
    · cases action : reasoningAction wording fields with
      | error error => simp [readEntry, thinking, action, Except.map] at read
      | ok action' => simp [readEntry, thinking, action, Except.map] at read
  | _ => simp [readEntry] at read

theorem readEntry_action {tool : Json} {action : ReasoningAction}
    (read : readEntry wording tool = .ok (.inr action)) :
    ∃ fields, tool = .obj fields ∧ isThinking fields = false ∧
      reasoningAction wording fields = .ok action := by
  cases tool with
  | obj fields =>
    by_cases thinking : isThinking fields
    · cases status : reasoningStatus fields with
      | error error => simp [readEntry, thinking, status] at read
      | ok status' =>
        cases sanitized : sanitizeReasoningThought (Json.field (py "thought") fields) with
        | error error => simp [readEntry, thinking, status, sanitized] at read
        | ok thought' => simp [readEntry, thinking, status, sanitized] at read
    · cases acted : reasoningAction wording fields with
      | error error => simp [readEntry, thinking, acted, Except.map] at read
      | ok action' =>
        simp only [readEntry, thinking, acted, Except.map, Bool.false_eq_true, if_false,
          Except.ok.injEq, Sum.inr.injEq] at read
        exact ⟨fields, rfl, by simpa using thinking, by rw [acted, read]⟩
  | _ => simp [readEntry] at read

theorem isThinkingStep_of_read {tool : Json} {entry : Entry}
    (read : readEntry wording tool = .ok entry) : isThinkingStep tool = entry.isLeft := by
  cases entry with
  | inl headed =>
    obtain ⟨rfl, thinking, _⟩ := readEntry_thinking read
    simp [isThinkingStep, thinking]
  | inr action =>
    obtain ⟨fields, rfl, real, _⟩ := readEntry_action read
    simp [isThinkingStep, real]

theorem Reads.cons_inv {tool : Json} {tools : List Json} {entries : List Entry}
    (reads : Reads wording (tool :: tools) entries) :
    ∃ entry rest, entries = entry :: rest ∧ readEntry wording tool = .ok entry ∧
      Reads wording tools rest := by
  obtain ⟨entry, rest, same, read, later⟩ := List.map_eq_cons_iff.mp reads.symm
  exact ⟨entry, rest, same, read.symm, later.symm⟩

theorem Reads.split {before after : List Json} {entries : List Entry}
    (reads : Reads wording (before ++ after) entries) :
    ∃ front back, entries = front ++ back ∧ Reads wording before front ∧
      Reads wording after back := by
  rw [Reads, List.map_append] at reads
  obtain ⟨front, back, same, first, second⟩ := List.map_eq_append_iff.mp reads.symm
  exact ⟨front, back, same, first.symm, second.symm⟩

def ReasoningPhase.ofSection (part : Section (PyStr × Tool) ReasoningAction) : ReasoningPhase :=
  ⟨part.heading.1, part.items⟩

/-- The thinking steps among the entries. -/
def thinkingSteps (entries : List Entry) : List Tool :=
  entries.filterMap fun entry => entry.getLeft?.map Prod.snd

@[simp] theorem thinkingSteps_nil : thinkingSteps [] = [] := rfl

@[simp] theorem thinkingSteps_step (step : PyStr × Tool) (rest : List Entry) :
    thinkingSteps (.inl step :: rest) = step.2 :: thinkingSteps rest := rfl

@[simp] theorem thinkingSteps_action (action : ReasoningAction) (rest : List Entry) :
    thinkingSteps (.inr action :: rest) = thinkingSteps rest := rfl

theorem thinkingSteps_append (before after : List Entry) :
    thinkingSteps (before ++ after) = thinkingSteps before ++ thinkingSteps after :=
  List.filterMap_append

/-- The heading of the tools before the first thinking step. -/
def noThinking : PyStr × Tool := (reasoningFallbackThought, [])

private theorem addAction_ofSection (action : ReasoningAction)
    (sections : List (Section (PyStr × Tool) ReasoningAction)) :
    addAction action (sections.map ReasoningPhase.ofSection) =
      (addItem noThinking action sections).map ReasoningPhase.ofSection := by
  induction sections with
  | nil => rfl
  | cons first rest ih =>
    cases rest with
    | nil => rfl
    | cons next more => simpa [addAction, addItem] using ih

/-- The grouping that belongs to these sections and thinking steps. -/
def Grouping.ofSections (sections : List (Section (PyStr × Tool) ReasoningAction))
    (steps : List Tool) : Grouping :=
  ⟨sections.map ReasoningPhase.ofSection, steps⟩

private theorem groupTool_read {sections : List (Section (PyStr × Tool) ReasoningAction)}
    {steps : List Tool} {tool : Json} {next : Grouping}
    (grouped : groupTool wording (.ofSections sections steps) tool = .ok next) :
    ∃ entry, readEntry wording tool = .ok entry ∧
      next = .ofSections (addEntry noThinking sections entry) (steps ++ thinkingSteps [entry]) := by
  cases tool with
  | obj fields =>
    by_cases thinking : isThinking fields
    · cases status : reasoningStatus fields with
      | error error => simp [groupTool, thinking, status] at grouped
      | ok status' =>
        cases sanitized : sanitizeReasoningThought (Json.field (py "thought") fields) with
        | error error => simp [groupTool, thinking, status, sanitized] at grouped
        | ok thought =>
          simp only [groupTool, thinking, status, sanitized, if_true, Except.ok.injEq] at grouped
          refine ⟨.inl (thought, fields), by simp [readEntry, thinking, status, sanitized], ?_⟩
          simp [← grouped, Grouping.ofSections, addEntry, ReasoningPhase.ofSection]
    · cases acted : reasoningAction wording fields with
      | error error => simp [groupTool, thinking, acted] at grouped
      | ok action =>
        simp only [groupTool, thinking, acted, Bool.false_eq_true, if_false,
          Except.ok.injEq] at grouped
        refine ⟨.inr action, by simp [readEntry, thinking, acted, Except.map], ?_⟩
        simp [← grouped, Grouping.ofSections, addEntry, addAction_ofSection]
  | _ => simp [groupTool] at grouped

private theorem groupTools_reads {tools : List Json}
    {sections : List (Section (PyStr × Tool) ReasoningAction)} {steps : List Tool}
    {grouping : Grouping}
    (grouped : groupTools wording (.ofSections sections steps) tools = .ok grouping) :
    ∃ entries, Reads wording tools entries ∧
      grouping = .ofSections (entries.foldl (addEntry noThinking) sections)
        (steps ++ thinkingSteps entries) := by
  induction tools generalizing sections steps with
  | nil =>
    simp only [groupTools, Except.ok.injEq] at grouped
    exact ⟨[], rfl, by simp [← grouped]⟩
  | cons tool rest ih =>
    cases one : groupTool wording (.ofSections sections steps) tool with
    | error error => simp [groupTools, one] at grouped
    | ok next =>
      obtain ⟨entry, read, rfl⟩ := groupTool_read one
      simp only [groupTools, one] at grouped
      obtain ⟨entries, reads, rfl⟩ := ih grouped
      refine ⟨entry :: entries, ?_, ?_⟩
      · simpa [Reads, read] using reads
      · rw [List.foldl_cons, List.append_assoc, ← thinkingSteps_append, List.singleton_append]

/-- The phases are the outline of the entries. -/
theorem groupTools_outline {tools : List Json} {grouping : Grouping}
    (grouped : groupTools wording ⟨[], []⟩ tools = .ok grouping) :
    ∃ entries, Reads wording tools entries ∧
      grouping.phases = (outline noThinking entries).map ReasoningPhase.ofSection ∧
      grouping.thinkingSteps = thinkingSteps entries := by
  obtain ⟨entries, reads, rfl⟩ := @groupTools_reads wording tools [] [] grouping grouped
  exact ⟨entries, reads, by rw [foldl_addEntry]; rfl, by simp [Grouping.ofSections]⟩

end OctoChannel.Rendering

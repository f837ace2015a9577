import OctoChannel.Rendering.Outline

namespace OctoChannel.Rendering

open Foundation Identity Cards

variable {wording : Wording}

/-- The entries with the thoughts alone as headings. -/
def thoughts (entries : List Entry) : List (PyStr ⊕ ReasoningAction) :=
  entries.map fun entry => entry.map Prod.fst id

/-- The actions of the real tools, each with the number and the thought of the nearest
thinking step before it. -/
def wholeTrace (entries : List Entry) : List ((Nat × PyStr) × ReasoningAction) :=
  labelled (0, reasoningFallbackThought) (numberEntries 1 (thoughts entries))

/-- What the phases show: each action with the thought it stands under. -/
def shownTrace (phases : List ReasoningPhase) : List (PyStr × ReasoningAction) :=
  phases.flatMap fun phase => phase.actions.map (phase.thought, ·)

/-- The phases show the longest recent part that fits both budgets, up to the last tool. -/
structure ShowsRecent (entries : List Entry) (phases : List ReasoningPhase) : Prop where
  recent : ∃ kept, LongestSuffix (Foundation.Fits reasoningMaxPhases reasoningMaxActions) kept
      (wholeTrace entries) ∧
    shownTrace phases = kept.map fun (label, action) => (label.2, action)
  nonempty : ∀ phase ∈ phases, phase.actions ≠ []
  last : ∃ label action, (wholeTrace entries).getLast? = some (label, action) ∧
    (shownTrace phases).getLast? = some (label.2, action)

/-- A phase as a numbered section shows it. -/
def ReasoningPhase.ofNumbered (part : Section (Nat × PyStr) ReasoningAction) : ReasoningPhase :=
  ⟨part.heading.2, part.items⟩

private theorem trimBackwards_ofNumbered (remaining : Nat)
    (sections : List (Section (Nat × PyStr) ReasoningAction)) :
    trimBackwards remaining (sections.map ReasoningPhase.ofNumbered) =
      (trimFrom remaining sections).map ReasoningPhase.ofNumbered := by
  induction sections generalizing remaining with
  | nil => rfl
  | cons first rest ih =>
    by_cases spent : remaining = 0
    · simp [trimBackwards, trimFrom, spent]
    · simp [trimBackwards, trimFrom, spent, ih, ReasoningPhase.ofNumbered]

private theorem trimReasoningPhases_ofNumbered
    (sections : List (Section (Nat × PyStr) ReasoningAction)) :
    trimReasoningPhases (sections.map ReasoningPhase.ofNumbered) =
      (recentSections reasoningMaxPhases reasoningMaxActions sections).map
        ReasoningPhase.ofNumbered := by
  simp only [trimReasoningPhases, recentSections, lastItems_map, ← List.map_reverse,
    trimBackwards_ofNumbered]

theorem shownTrace_ofNumbered (sections : List (Section (Nat × PyStr) ReasoningAction)) :
    shownTrace (sections.map ReasoningPhase.ofNumbered) =
      (underHeadings sections).map fun (label, action) => (label.2, action) := by
  induction sections with
  | nil => rfl
  | cons first rest ih =>
    simp only [shownTrace] at ih
    simp [shownTrace, ih, ReasoningPhase.ofNumbered, Function.comp_def]

theorem leadItems_thoughts (entries : List Entry) :
    leadItems (thoughts entries) = leadItems entries := by
  induction entries with
  | nil => rfl
  | cons entry rest ih =>
    cases entry with
    | inl headed => rfl
    | inr action => simpa [thoughts, leadItems] using ih

theorem headed_thoughts (entries : List Entry) :
    (headed (thoughts entries)).map (fun part => ReasoningPhase.mk part.heading part.items) =
      (headed entries).map ReasoningPhase.ofSection := by
  induction entries with
  | nil => rfl
  | cons entry rest ih =>
    cases entry with
    | inl step =>
      have below := leadItems_thoughts rest
      simp only [thoughts] at ih below
      simp [thoughts, headed, ih, below, ReasoningPhase.ofSection]
    | inr action => simpa [thoughts, headed] using ih

/-- The numbered outline has the phases of the tools. -/
private theorem outline_thoughts (entries : List Entry) :
    (outline (0, reasoningFallbackThought) (numberEntries 1 (thoughts entries))).map
        ReasoningPhase.ofNumbered =
      (outline noThinking entries).map ReasoningPhase.ofSection := by
  have unnumbered := congrArg
    (List.map fun part => ReasoningPhase.mk part.heading part.items)
    (outline_numbered reasoningFallbackThought (thoughts entries))
  rw [List.map_map] at unnumbered
  refine unnumbered.trans ?_
  simp only [outline, leadItems_thoughts]
  split
  · exact headed_thoughts entries
  · simp [headed_thoughts, ReasoningPhase.ofSection, noThinking]

/-- The sections that have actions. -/
def actedSections (entries : List Entry) : List (Section (Nat × PyStr) ReasoningAction) :=
  (outline (0, reasoningFallbackThought) (numberEntries 1 (thoughts entries))).filter
    fun part => !part.items.isEmpty

theorem actedSections_nonempty (entries : List Entry) :
    ∀ part ∈ actedSections entries, part.items ≠ [] := by
  intro part member
  simpa using (List.mem_filter.mp member).2

private theorem actedSections_distinct (entries : List Entry) :
    ((actedSections entries).map Section.heading).Nodup :=
  (outline_numbered_nodup _ _).sublist (List.filter_sublist.map _)

theorem actedSections_trace (entries : List Entry) :
    underHeadings (actedSections entries) = wholeTrace entries := by
  rw [actedSections, underHeadings_nonempty, underHeadings_outline, wholeTrace]

private theorem actedPhases (entries : List Entry) :
    ((outline noThinking entries).map ReasoningPhase.ofSection).filter
        (fun phase => phase.actions ≠ []) =
      (actedSections entries).map ReasoningPhase.ofNumbered := by
  rw [← outline_thoughts, List.filter_map, actedSections]
  congr 1
  apply List.filter_congr
  intro part _
  cases items : part.items <;> simp [ReasoningPhase.ofNumbered, items]

/-- The thoughts do not change which actions there are. -/
private theorem wholeTrace_actions (entries : List Entry) :
    (wholeTrace entries).map Prod.snd = entries.filterMap Sum.getRight? := by
  suffices every : ∀ number label,
      (labelled label (numberEntries number (thoughts entries))).map Prod.snd =
        entries.filterMap Sum.getRight? from every _ _
  induction entries with
  | nil => exact fun _ _ => rfl
  | cons entry rest ih =>
    intro number label
    cases entry with
    | inl step =>
      rw [List.filterMap_cons_none (by rfl), ← ih (number + 1) (number, step.1)]
      simp [thoughts, numberEntries, labelled]
    | inr action =>
      rw [List.filterMap_cons_some (by rfl), ← ih number label]
      simp [thoughts, numberEntries, labelled]

/-- The trace is empty when every tool is a thinking step. -/
private theorem wholeTrace_eq_nil {tools : List Json} {entries : List Entry}
    (reads : Reads wording tools entries) :
    wholeTrace entries = [] ↔ ∀ tool ∈ tools, isThinkingStep tool = true := by
  rw [← List.map_eq_nil_iff, wholeTrace_actions]
  induction tools generalizing entries with
  | nil =>
    rw [show entries = [] from List.map_eq_nil_iff.mp reads.symm]
    simp
  | cons tool rest ih =>
    obtain ⟨entry, later, rfl, read, readsRest⟩ := reads.cons_inv
    have left := isThinkingStep_of_read read
    cases entry with
    | inl step => simpa [left] using ih readsRest
    | inr action => simp [left]

/-- Trimming the phases of a tool list shows its recent trace. -/
private theorem trimmed_showsRecent {entries : List Entry} (traced : wholeTrace entries ≠ []) :
    ShowsRecent entries
      (trimReasoningPhases ((actedSections entries).map ReasoningPhase.ofNumbered)) := by
  rw [trimReasoningPhases_ofNumbered]
  have nonempty := actedSections_nonempty entries
  have longest := @recentSections_longest _ _ _ reasoningMaxPhases reasoningMaxActions _
    (actedSections_distinct entries) nonempty
  rw [actedSections_trace] at longest
  refine ⟨⟨_, longest, shownTrace_ofNumbered _⟩, ?_, ?_⟩
  · intro phase member
    obtain ⟨part, within, rfl⟩ := List.mem_map.mp member
    exact recentSections_nonempty nonempty part within
  · obtain ⟨⟨label, action⟩, last⟩ := Option.isSome_iff_exists.mp (List.getLast?_isSome.mpr traced)
    have kept := longest.getLast? fun entry =>
      ⟨by simp [reasoningMaxActions], by simp [reasoningMaxPhases]⟩
    refine ⟨label, action, last, ?_⟩
    rw [shownTrace_ofNumbered, List.getLast?_map, kept, last]
    rfl

private theorem actedSections_eq_nil (entries : List Entry) :
    actedSections entries = [] ↔ wholeTrace entries = [] := by
  rw [← actedSections_trace]
  constructor
  · intro none
    rw [none]
    rfl
  · intro none
    cases acted : actedSections entries with
    | nil => rfl
    | cons first rest =>
      have some := actedSections_nonempty entries first (by simp [acted])
      simp [acted, some] at none

private theorem reasoningProcessData_phases {phase : PyStr} {tools : List Json} {elapsedMs : Json}
    {reasoningId : PyStr} {phases : List ReasoningPhase} {data : ReasoningData}
    (built : reasoningProcessData wording phase tools elapsedMs reasoningId phases = .ok data) :
    data.phases = phases := by
  cases known : reasoningState? phase with
  | none => simp [reasoningProcessData, known] at built
  | some state =>
    cases counted : toolCount tools with
    | error error => simp [reasoningProcessData, known, counted] at built
    | ok count =>
      simp only [reasoningProcessData, known, counted, Except.ok.injEq] at built
      rw [← built]

/-- The phases that are not empty are those of the sections with actions. -/
private theorem reasoningPhases_acted {tools : List Json} {phases : List ReasoningPhase}
    (grouped : reasoningPhases wording tools false = .ok phases) :
    ∃ entries, Reads wording tools entries ∧
      phases.filter (fun phase => phase.actions ≠ []) =
        (actedSections entries).map ReasoningPhase.ofNumbered := by
  cases ran : groupTools wording ⟨[], []⟩ tools with
  | error error => simp [reasoningPhases, ran] at grouped
  | ok grouping =>
    obtain ⟨entries, reads, outlined, _⟩ := groupTools_outline ran
    refine ⟨entries, reads, ?_⟩
    simp only [reasoningPhases, ran, Bool.false_eq_true, if_false, Except.ok.injEq] at grouped
    rw [← actedPhases, ← outlined, ← grouped]
    split
    · rename_i none
      simp [none]
    · rfl

/-- The trace for the registry is missing exactly when no real tool ran; otherwise it is the
longest recent part of the whole trace within the budgets of phases and actions. -/
theorem wireData_showsRecent {phase : PyStr} {tools : List Json} {elapsedMs : Json}
    {reasoningId : PyStr} {sent : Option ReasoningData}
    (built : buildReasoningProcessWireData wording phase tools elapsedMs reasoningId = .ok sent) :
    ∃ entries, Reads wording tools entries ∧
      (sent = none ↔ ∀ tool ∈ tools, isThinkingStep tool = true) ∧
      ∀ data, sent = some data → ShowsRecent entries data.phases := by
  cases grouped : reasoningPhases wording tools false with
  | error error => simp [buildReasoningProcessWireData, grouped] at built
  | ok phases =>
    obtain ⟨entries, reads, acted⟩ := reasoningPhases_acted grouped
    simp only [buildReasoningProcessWireData, grouped, acted, List.map_eq_nil_iff,
      actedSections_eq_nil] at built
    refine ⟨entries, reads, ?_⟩
    rw [← wholeTrace_eq_nil reads]
    by_cases empty : wholeTrace entries = []
    · simp only [empty, if_true, Except.ok.injEq] at built
      subst built
      simp [empty]
    · simp only [empty, if_false] at built
      cases filled : reasoningProcessData wording phase tools elapsedMs reasoningId
          (trimReasoningPhases ((actedSections entries).map ReasoningPhase.ofNumbered)) with
      | error error => simp [filled, Except.map] at built
      | ok data =>
        simp only [filled, Except.map, Except.ok.injEq] at built
        subst built
        refine ⟨by simp [empty], ?_⟩
        intro kept same
        rw [← Option.some.inj same, reasoningProcessData_phases filled]
        exact trimmed_showsRecent empty

/-- Two finished reads, one of them before any thinking step. -/
def sampleTools : List Json :=
  let read := Json.obj [(py "tool_name", .str (py "read")), (py "status", .str (py "done"))]
  let step := Json.obj [(py "tool_name", .str (py "__thinking__")),
    (py "status", .str (py "done")), (py "thought", .str (py "look"))]
  [read, step, read]

theorem wireData_showsRecent_sample : ∃ sent,
    buildReasoningProcessWireData plainWording (py "running") sampleTools .null [] = .ok sent ∧
    ∃ entries, Reads plainWording sampleTools entries ∧
      (sent = none ↔ ∀ tool ∈ sampleTools, isThinkingStep tool = true) ∧
      ∀ data, sent = some data → ShowsRecent entries data.phases := by
  have built : (buildReasoningProcessWireData plainWording (py "running") sampleTools
      .null []).isOk = true := by decide
  cases ran : buildReasoningProcessWireData plainWording (py "running") sampleTools .null [] with
  | error error =>
    rw [ran] at built
    cases built
  | ok sent => exact ⟨sent, rfl, wireData_showsRecent ran⟩

end OctoChannel.Rendering

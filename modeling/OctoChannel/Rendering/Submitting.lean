import OctoChannel.Rendering.Budgets

namespace OctoChannel.Rendering

open Foundation Identity Cards

theorem scalar_member {members : List (PyStr × Json)} (scalar : Json.Scalar (.obj members))
    (key : String) {value : Json} (present : (py key, value) ∈ members) : Json.Scalar value := by
  cases scalar with
  | obj keys each => exact each (py key, value) present

theorem scalar_item {items : List Json} (scalar : Json.Scalar (.arr items)) {item : Json}
    (present : item ∈ items) : Json.Scalar item := by
  cases scalar with
  | arr each => exact each item present

private theorem encodable_of_scalar {text : PyStr} (scalar : Json.Scalar (.str text)) :
    Encodable text := by
  cases scalar with
  | str encodable => exact encodable

/-- A card that was built has no lone surrogate in its choices and its data. -/
structure FormBuilt (args : InteractiveArgs) (capabilities : Option CardCapabilities)
    (form : CardForm) : Prop extends FormRead args capabilities form where
  choices : ∀ input ∈ form.inputs, input.kind = .choice →
    ∀ value ∈ input.choices.map Prod.snd, Encodable value
  data : ∀ button ∈ form.buttons, Json.Scalar (.obj (button.boundData form.binding))

private theorem choicesMember_node {form : InputForm} (choice : form.kind = .choice) :
    (py "choices", .arr (form.choices.map fun choice => .obj (choiceNode choice))) ∈ form.node := by
  simp [InputForm.node, choice]

theorem formBuilt {args : InteractiveArgs} {capabilities : Option CardCapabilities}
    {form : CardForm} (read : readCard args capabilities = .ok form)
    (checked : validateCardLimits form.card form.plain capabilities cardProfileV2 = .ok ()) :
    FormBuilt args capabilities form := by
  obtain ⟨bytes, encoded, _⟩ := (validateCardLimits_ok.mp checked).payload
  have card : Json.Scalar (.obj form.card) :=
    scalar_member (scalar_of_goJsonBytes encoded) "card" (by simp)
  have body : Json.Scalar (.arr form.body) :=
    scalar_member card "body" (by simp [CardForm.card])
  have actions : Json.Scalar (.arr form.actions) :=
    scalar_member card "actions" (by simp [CardForm.card])
  refine { readCard_ok read with choices := ?_, data := ?_ }
  · intro input present choice value member
    obtain ⟨offered, among, rfl⟩ := List.mem_map.mp member
    have node : Json.Scalar (.obj input.node) :=
      scalar_item body (by
        rw [CardForm.body]
        exact List.mem_append_right _ (List.mem_map_of_mem present))
    have entry := scalar_item (scalar_member node "choices" (choicesMember_node choice))
      (List.mem_map_of_mem among)
    exact encodable_of_scalar (scalar_member entry "value" (by simp [choiceNode]))
  · intro button present
    have action : Json.Scalar (.obj (button.action form.binding)) :=
      scalar_item actions (List.mem_map_of_mem present)
    exact scalar_member action "data" (by simp [ButtonForm.action])

/-- One answer for each input. -/
def Answers (forms : List InputForm) (answers : List (PyStr × PyStr)) : Prop :=
  List.Forall₂ (fun form answer => answer.1 = form.id ∧ form.Allows answer.2) forms answers

private theorem answers_iff {capabilities : Option CardCapabilities} {textInputs : Nat}
    {forms : List InputForm} (read : ∀ form ∈ forms, InputRead capabilities textInputs [] form)
    (answers : List (PyStr × PyStr)) :
    List.Forall₂ (fun node (answer : PyStr × PyStr) =>
        Json.field (py "id") node = .str answer.1 ∧ NodeAllows node answer.2)
        (forms.map InputForm.node) answers ↔ Answers forms answers := by
  induction forms generalizing answers with
  | nil => simp [Answers]
  | cons form rest ih =>
    rw [List.forall_mem_cons] at read
    cases answers with
    | nil => simp [Answers]
    | cons answer others =>
      rw [Answers, List.map_cons, List.forall₂_cons, List.forall₂_cons, ih read.2, idOf_node,
        Json.str.injEq, read.1.nodeAllows_iff, eq_comm]
      rfl

theorem FormRead.submits_iff {args : InteractiveArgs} {capabilities : Option CardCapabilities}
    {form : CardForm} (read : FormRead args capabilities form) (inputs : List (PyStr × PyStr)) :
    Submits form.card inputs ↔
      ∃ answers, inputs.Perm answers ∧ Answers form.inputs answers := by
  obtain ⟨textInputs, each⟩ := read.inputs
  rw [Submits, read.inputNodes]
  simp only [answers_iff each]

theorem Answers.exists_form {forms : List InputForm} {answers : List (PyStr × PyStr)}
    (answered : Answers forms answers) {answer : PyStr × PyStr} (member : answer ∈ answers) :
    ∃ form ∈ forms, answer.1 = form.id ∧ form.Allows answer.2 := by
  induction answered with
  | nil => cases member
  | @cons form first rest others same _ ih =>
    rcases List.mem_cons.mp member with rfl | later
    · exact ⟨form, by simp, same⟩
    · obtain ⟨other, within, found⟩ := ih later
      exact ⟨other, List.mem_cons_of_mem _ within, found⟩

/-- Answers that are given by a function. -/
private theorem answers_of {forms : List InputForm} {value : InputForm → PyStr}
    (allowed : ∀ form ∈ forms, form.Allows (value form)) :
    Answers forms (forms.map fun form => (form.id, value form)) := by
  induction forms with
  | nil => exact .nil
  | cons form rest ih =>
    rw [List.forall_mem_cons] at allowed
    exact .cons ⟨rfl, allowed.1⟩ (ih allowed.2)

/-- Allowed values can be encoded. -/
theorem InputForm.Allows.encodable {form : InputForm} {value : PyStr} (allowed : form.Allows value)
    (offered : form.kind = .choice → ∀ value ∈ form.choices.map Prod.snd, Encodable value) :
    Encodable value := by
  rw [InputForm.Allows] at allowed
  by_cases choice : form.kind = .choice
  · rw [if_pos choice] at allowed
    by_cases multiSelect : form.multiSelect
    · rw [if_pos multiSelect] at allowed
      obtain ⟨chosen, _, among, rfl⟩ := allowed
      exact encodable_joined (encodable_py ",") fun part member =>
        offered choice part (among member)
    · rw [if_neg multiSelect] at allowed
      exact offered choice value allowed
  · rw [if_neg choice] at allowed
    exact allowed.1

/-- Submitted inputs are well formed. -/
theorem FormBuilt.wellFormed {args : InteractiveArgs} {capabilities : Option CardCapabilities}
    {form : CardForm} (built : FormBuilt args capabilities form)
    {inputs answers : List (PyStr × PyStr)} (same : inputs.Perm answers)
    (answered : Answers form.inputs answers) : WellFormed inputs := by
  obtain ⟨textInputs, each⟩ := built.inputs
  refine ⟨?_, ?_, ?_⟩
  · intro input member
    obtain ⟨of, present, named, _⟩ := answered.exists_form (same.mem_iff.mp member)
    rw [named]
    exact (each of present).safe
  · intro input member
    obtain ⟨of, present, _, allowed⟩ := answered.exists_form (same.mem_iff.mp member)
    exact allowed.encodable (built.choices of present)
  · rw [same.length_eq, ← answered.length_eq]
    exact built.few.trans (by decide)

def resultOf (form : CardForm) : InteractiveCard :=
  ⟨form.card, form.plain, form.buttons.map fun button => (button.id, button.label),
    form.inputs.map InputForm.id, form.binding⟩

/-- The pressed action is that of a button. -/
private theorem pressed_button {form : CardForm} {members : List (PyStr × Json)} {id : PyStr}
    {data : List (PyStr × Json)} (among : .obj members ∈ itemsOf "actions" form.card)
    (named : Json.field (py "id") members = .str id)
    (carried : Json.field (py "data") members = .obj data) :
    ∃ button ∈ form.buttons, button.id = id ∧ data = button.boundData form.binding := by
  rw [itemsOf_actions] at among
  obtain ⟨button, present, same⟩ := List.mem_map.mp among
  obtain rfl := Json.obj.inj same
  refine ⟨button, present, ?_, ?_⟩
  · rw [ButtonForm.action, List.cons_append, List.cons_append, field_next (by decide),
      field_head] at named
    exact Json.str.inj named
  · rw [ButtonForm.action, List.cons_append, List.cons_append, List.cons_append,
      List.cons_append, field_next (by decide), field_next (by decide), field_next (by decide),
      field_head] at carried
    exact (Json.obj.inj carried).symm

theorem FormRead.bound {args : InteractiveArgs} {capabilities : Option CardCapabilities}
    {form : CardForm} (read : FormRead args capabilities form) {button : ButtonForm}
    (present : button ∈ form.buttons) :
    Json.field bindingKey (button.boundData form.binding) = .str form.binding := by
  obtain ⟨members, data, same, _, carried, binding, _⟩ :=
    (read.buttons button present).carriesBinding form.binding
  obtain rfl := Json.obj.inj same
  rw [ButtonForm.action, List.cons_append, List.cons_append, List.cons_append,
    List.cons_append, field_next (by decide), field_next (by decide), field_next (by decide),
    field_head] at carried
  rw [Json.obj.inj carried]
  exact binding

/-- A click that respects the card is right, and its data is that of the button. -/
theorem FormBuilt.press {args : InteractiveArgs} {capabilities : CardCapabilities}
    {form : CardForm} (built : FormBuilt args (some capabilities) form) {session : CardSession}
    {action : CardAction} (registered : Registered capabilities (resultOf form) session)
    (presses : Presses (resultOf form) session action) :
    RightPress session action ∧
      (∃ button ∈ form.buttons, action.data = button.boundData form.binding) ∧
      ∃ answers, action.inputs.Perm answers ∧ Answers form.inputs answers := by
  obtain ⟨members, among, named, carried⟩ := presses.pressed
  obtain ⟨button, present, id, data⟩ := pressed_button among named carried
  obtain ⟨answers, same, answered⟩ := (built.submits_iff action.inputs).mp presses.submits
  refine ⟨⟨presses.messageId, presses.channel, presses.channelType, presses.operator, ?_, ?_, ?_⟩,
    ⟨button, present, data⟩, answers, same, answered⟩
  · rw [registered.actionLabels, ← id]
    simp only [resultOf, List.map_map, Function.comp_def]
    exact List.mem_map_of_mem present
  · have binding := built.bound present
    rw [bindingMatches, data]
    rw [bindingKey] at binding
    rw [binding, registered.bindingId]
    exact decide_eq_true rfl
  · intro input member
    obtain ⟨of, within, key, _⟩ := answered.exists_form (same.mem_iff.mp member)
    rw [registered.inputIds, key]
    exact List.mem_map_of_mem within

/-- A session of the card. -/
def formSession (capabilities : CardCapabilities) (form : CardForm) : CardSession where
  messageId := []
  bindingId := form.binding
  sessionKey := []
  chatId := []
  channelId := []
  channelType := .Group
  requesterUid := []
  card := .obj form.card
  plain := form.plain
  actionLabels := (resultOf form).actionLabels
  inputIds := (resultOf form).inputIds
  actionChannelIds := []
  maxInputTextBytes := capabilities.maxInputTextBytes
  maxInputsBytes := capabilities.maxInputsBytes
  clarify := none
  kind := []

/-- A click on one of its buttons. -/
def formPress (form : CardForm) (button : ButtonForm) (inputs : List (PyStr × PyStr)) :
    CardAction :=
  ⟨0, [], [], .Group, button.id, inputs, [], button.boundData form.binding⟩

theorem formPress_presses {args : InteractiveArgs} {capabilities : CardCapabilities}
    {form : CardForm} (read : FormRead args (some capabilities) form) {button : ButtonForm}
    (present : button ∈ form.buttons) {answers : List (PyStr × PyStr)}
    (answered : Answers form.inputs answers) :
    Presses (resultOf form) (formSession capabilities form) (formPress form button answers) where
  messageId := rfl
  channel := rfl
  channelType := rfl
  operator := rfl
  pressed := by
    refine ⟨button.action form.binding, ?_, ?_, ?_⟩
    · rw [resultOf, itemsOf_actions]
      exact List.mem_map_of_mem present
    · rw [ButtonForm.action, List.cons_append, List.cons_append, field_next (by decide),
        field_head]
      rfl
    · rw [ButtonForm.action, List.cons_append, List.cons_append, List.cons_append,
        List.cons_append, field_next (by decide), field_next (by decide),
        field_next (by decide), field_head]
      rfl
  submits := (read.submits_iff answers).mpr ⟨answers, List.Perm.refl _, answered⟩

/-- A form can always be submitted when all answers fit with the data of every button. -/
private theorem FormBuilt.alwaysSubmits_iff {args : InteractiveArgs}
    {capabilities : CardCapabilities}
    {form : CardForm} (built : FormBuilt args (some capabilities) form) :
    AlwaysSubmits capabilities (resultOf form) ↔
      ∀ answers, Answers form.inputs answers → ∀ button ∈ form.buttons,
        Fits capabilities answers (button.boundData form.binding) := by
  constructor
  · intro always answers answered button present
    have registered : Registered capabilities (resultOf form) (formSession capabilities form) :=
      ⟨rfl, rfl, rfl, rfl, rfl⟩
    have presses := formPress_presses built.toFormRead present answered
    have right := (built.press registered presses).1
    exact (passes_iff registered right (built.wellFormed (List.Perm.refl _) answered)
      (built.data button present)).mp (always _ _ registered presses)
  · intro fit session action registered presses
    obtain ⟨right, ⟨button, present, data⟩, answers, same, answered⟩ :=
      built.press registered presses
    have scalar : Json.Scalar (.obj action.data) := data ▸ built.data button present
    refine (passes_iff registered right (built.wellFormed same answered) scalar).mpr ?_
    have fits := fit answers answered button present
    have size : inputsBytes action.inputs = inputsBytes answers :=
      Json.objectBytes_perm (same.map _)
    refine ⟨fun input member => fits.values input (same.mem_iff.mp member), ?_, ?_⟩
    · rw [size]
      exact fits.together
    · rw [size, data]
      exact fits.envelope

/-- The most bytes of one field of the printed inputs. -/
def InputForm.worstField (form : InputForm) : Nat :=
  fieldBytes form.id (form.worst Json.escapedBytes 6)

/-- The most bytes of the printed inputs. -/
def CardForm.worstInputs (form : CardForm) : Nat :=
  Json.objectBytes (form.inputs.map InputForm.worstField)

/-- Every input is bounded, and the largest submission is within all budgets. -/
structure SubmissionsFit (capabilities : CardCapabilities) (form : CardForm) : Prop where
  bounded : ∀ input ∈ form.inputs, input.Bounded
  values : ∀ input ∈ form.inputs,
    (input.worst pointBytes 4 : Int) ≤ limitOr capabilities.maxInputTextBytes 4096 ∧
      input.worst pointBytes 4 ≤ maxEventInputValueBytes
  together : (form.worstInputs : Int) ≤ limitOr capabilities.maxInputsBytes 16384
  envelope : ∀ button ∈ form.buttons, 19 + form.worstInputs +
    weigh pointBytes (Json.obj (button.boundData form.binding)).print ≤ maxEventEnvelopeBytes

private theorem Answers.inputsBytes_le {forms : List InputForm} {answers : List (PyStr × PyStr)}
    (answered : Answers forms answers) (bounded : ∀ form ∈ forms, form.Bounded) :
    inputsBytes answers ≤ Json.objectBytes (forms.map InputForm.worstField) := by
  refine Json.objectBytes_mono ?_
  induction answered with
  | nil => exact .nil
  | @cons form answer rest others same _ ih =>
    rw [List.forall_mem_cons] at bounded
    refine .cons ?_ (ih bounded.2)
    have below := InputForm.weigh_le_worst peak_escapedBytes bounded.1 same.2
    dsimp only
    rw [same.1, InputForm.worstField, fieldBytes, fieldBytes]
    omega

/-- A form whose largest submission fits can always be submitted. -/
theorem SubmissionsFit.fits {capabilities : CardCapabilities} {form : CardForm}
    (fit : SubmissionsFit capabilities form) {answers : List (PyStr × PyStr)}
    (answered : Answers form.inputs answers) {button : ButtonForm}
    (present : button ∈ form.buttons) :
    Fits capabilities answers (button.boundData form.binding) := by
  have total : inputsBytes answers ≤ form.worstInputs := answered.inputsBytes_le fit.bounded
  refine ⟨?_, ?_, ?_⟩
  · intro answer member
    obtain ⟨of, within, _, allowed⟩ := answered.exists_form member
    have below := InputForm.weigh_le_worst peak_pointBytes (fit.bounded of within) allowed
    obtain ⟨text, event⟩ := fit.values of within
    exact ⟨by omega, by omega⟩
  · have together := fit.together
    omega
  · have whole := fit.envelope button present
    omega

/-- Every answer fits, so the answers made up of one wanted value for every input fit. -/
theorem CardForm.fits_of_values {capabilities : CardCapabilities} {form : CardForm}
    (every : ∀ answers, Answers form.inputs answers → ∀ button ∈ form.buttons,
      Fits capabilities answers (button.boundData form.binding))
    {wanted : InputForm → PyStr → Prop}
    (some : ∀ input ∈ form.inputs, ∃ value, input.Allows value ∧ wanted input value) :
    ∃ value : InputForm → PyStr, (∀ input ∈ form.inputs, wanted input (value input)) ∧
      ∀ button ∈ form.buttons, Fits capabilities
        (form.inputs.map fun input => (input.id, value input))
        (button.boundData form.binding) := by
  choose! value allowed using some
  exact ⟨value, fun input member => (allowed input member).2,
    every _ (answers_of fun input member => (allowed input member).1)⟩

/-- When everything passes, the largest submission has passed. -/
private theorem FormBuilt.submissionsFit {args : InteractiveArgs} {capabilities : CardCapabilities}
    {form : CardForm} (built : FormBuilt args (some capabilities) form)
    (every : ∀ answers, Answers form.inputs answers → ∀ button ∈ form.buttons,
      Fits capabilities answers (button.boundData form.binding)) :
    SubmissionsFit capabilities form := by
  obtain ⟨textInputs, each⟩ := built.inputs
  obtain ⟨anyButton, pressed⟩ := List.exists_mem_of_ne_nil _ built.some
  have bounded : ∀ input ∈ form.inputs, input.Bounded := by
    intro input member
    by_contra unbounded
    have some : ∀ other ∈ form.inputs, ∃ value, other.Allows value ∧
        (other = input → maxEventInputValueBytes < weigh pointBytes value) := by
      intro other present
      by_cases same : other = input
      · obtain ⟨value, allowed, size⟩ :=
          InputForm.unbounded_allows (same ▸ unbounded) (maxEventInputValueBytes + 1)
        exact ⟨value, allowed, fun _ => size⟩
      · obtain ⟨value, allowed⟩ := (each other present).exists_allowed
        exact ⟨value, allowed, fun equal => absurd equal same⟩
    obtain ⟨value, heavy, fits⟩ := CardForm.fits_of_values every some
    have small := ((fits anyButton pressed).values (input.id, value input)
      (List.mem_map.mpr ⟨input, member, rfl⟩)).2
    exact absurd small (Nat.not_le.mpr (heavy input member rfl))
  refine ⟨bounded, ?_, ?_, ?_⟩
  · intro input member
    obtain ⟨value, heavy, fits⟩ := CardForm.fits_of_values every fun other present =>
      (each other present).worst_attained peak_pointBytes (bounded other present)
    have small := (fits anyButton pressed).values (input.id, value input)
      (List.mem_map.mpr ⟨input, member, rfl⟩)
    rw [heavy input member] at small
    exact small
  all_goals
    obtain ⟨value, heavy, fits⟩ := CardForm.fits_of_values every fun other present =>
      (each other present).worst_attained peak_escapedBytes (bounded other present)
    have size : inputsBytes (form.inputs.map fun input => (input.id, value input)) =
        form.worstInputs := by
      rw [inputsBytes, CardForm.worstInputs, List.map_map]
      congr 1
      apply List.map_congr_left
      intro input member
      simp only [Function.comp_apply, heavy input member, InputForm.worstField]
  · rw [← size]
    exact (fits anyButton pressed).together
  · intro button present
    rw [← size]
    exact (fits button present).envelope

/-- A form that the builder returns can always be submitted exactly when its inputs are
bounded and its largest submission is within the budgets. -/
theorem builtForm_submits_iff {args : InteractiveArgs} {capabilities : CardCapabilities}
    {result : InteractiveCard}
    (built : buildInteractiveCard args (some capabilities) = .ok result) :
    ∃ form, readCard args (some capabilities) = .ok form ∧
      (AlwaysSubmits capabilities result ↔ SubmissionsFit capabilities form) := by
  cases read : readCard args (some capabilities) with
  | error error => simp [buildInteractiveCard, read] at built
  | ok form =>
    cases checked : validateCardLimits form.card form.plain (some capabilities) cardProfileV2 with
    | error error => simp [buildInteractiveCard, read, checked] at built
    | ok passed =>
      simp only [buildInteractiveCard, read, checked, Except.ok.injEq] at built
      have known := formBuilt read checked
      have exact_iff := known.alwaysSubmits_iff
      rw [resultOf, built] at exact_iff
      refine ⟨form, rfl, exact_iff.trans ⟨known.submissionsFit, ?_⟩⟩
      intro fit answers answered button present
      exact fit.fits answered present

/-- Capabilities that allow a hundred bytes for all inputs together. -/
def smallInputs : CardCapabilities where
  authoritative := false
  enabled := true
  elements := none
  inputs := none
  actions := none
  profiles := none
  cardVersion := none
  maxNodes := none
  maxDepth := none
  maxPayloadBytes := none
  maxInputTextBytes := none
  maxInputsBytes := some 100

def goButton : ButtonForm := ⟨py "go", py "Go", [(py "env", .str (py "prod"))], none⟩

/-- What the sample arguments read as: the text input takes 25 characters. -/
def sampleForm : CardForm where
  binding := py "b1"
  title := py "Deploy?"
  text := none
  inputs := [⟨py "why", .text, py "Input.Text", none, [], false, none, some 25⟩]
  buttons := [goButton]

theorem readCard_sample : readCard sampleArgs (some smallInputs) = .ok sampleForm := rfl

theorem buildInteractiveCard_sample :
    buildInteractiveCard sampleArgs (some smallInputs) = .ok (resultOf sampleForm) := by
  have passes : (validateCardLimits sampleForm.card sampleForm.plain (some smallInputs)
      cardProfileV2).isOk = true := by decide +kernel
  cases checked : validateCardLimits sampleForm.card sampleForm.plain (some smallInputs)
      cardProfileV2 with
  | error error =>
    rw [checked] at passes
    cases passes
  | ok passed =>
    simp only [buildInteractiveCard, readCard_sample, checked]
    rfl

theorem builtForm_submits_iff_small : ∃ form,
    readCard sampleArgs (some smallInputs) = .ok form ∧
      (AlwaysSubmits smallInputs (resultOf sampleForm) ↔ SubmissionsFit smallInputs form) :=
  builtForm_submits_iff buildInteractiveCard_sample

/-- As many characters as the card allows, of four bytes each. -/
def longAnswer : PyStr := List.replicate 25 (Fin.ofNat 0x110000 0x1f600)

private theorem longAnswer_answers : Answers sampleForm.inputs [(py "why", longAnswer)] := by
  refine .cons ⟨rfl, ?_, ?_⟩ .nil
  · intro point member
    rw [List.eq_of_mem_replicate member]
    rfl
  · intro _ limit same
    rw [← Option.some.inj same]
    decide

/-- The verifier ignores a click with an answer that the card allows. -/
theorem longAnswer_ignored :
    buildInteractiveCard sampleArgs (some smallInputs) = .ok (resultOf sampleForm) ∧
      ¬ AlwaysSubmits smallInputs (resultOf sampleForm) := by
  refine ⟨buildInteractiveCard_sample, ?_⟩
  intro always
  have presses := @formPress_presses sampleArgs smallInputs sampleForm
    (readCard_ok readCard_sample) goButton List.mem_cons_self _ longAnswer_answers
  have passed := (always _ _ ⟨rfl, rfl, rfl, rfl, rfl⟩ presses).1
  have refused : actionMatchesSession (formPress sampleForm goButton [(py "why", longAnswer)])
      (formSession smallInputs sampleForm) = .ok false := by decide +kernel
  rw [refused] at passed
  cases passed

end OctoChannel.Rendering

import OctoChannel.Cards.Sessions
import OctoChannel.Foundation.ByteSizes
import OctoChannel.Rendering.Binding

/-! Which forms can always be submitted: every answer that respects the card passes the
bounds of the verifier. -/

namespace OctoChannel.Rendering

open Foundation Identity Cards

/-- The values that a choice node offers. -/
def offeredValues (node : List (PyStr × Json)) : List PyStr :=
  (itemsOf "choices" node).filterMap fun choice =>
    match choice with
    | .obj members => stringOf (Json.field (py "value") members)
    | _ => none

/-- Any of the offered values, joined by commas. -/
def IsJoinedSubset (offered : List PyStr) (value : PyStr) : Prop :=
  ∃ chosen : List PyStr, chosen.Nodup ∧ chosen ⊆ offered ∧ value = joined (py ",") chosen

def isMultiSelect (node : List (PyStr × Json)) : Bool :=
  match Json.field (py "isMultiSelect") node with
  | .bool true => true
  | _ => false

/-- The value respects the input node; a typed value is a text of scalar values. -/
def NodeAllows (node : List (PyStr × Json)) (value : PyStr) : Prop :=
  if stringOf (typeOf node) = some (py "Input.ChoiceSet") then
    if isMultiSelect node then
      IsJoinedSubset (offeredValues node) value
    else value ∈ offeredValues node
  else
    Encodable value ∧ (stringOf (typeOf node) = some (py "Input.Text") →
      ∀ limit, Json.field (py "maxLength") node = .int limit → (value.length : Int) ≤ limit)

/-- One value for each input of the card, in any order. -/
def Submits (card : List (PyStr × Json)) (inputs : List (PyStr × PyStr)) : Prop :=
  ∃ answers, inputs.Perm answers ∧
    List.Forall₂ (fun node (answer : PyStr × PyStr) =>
      Json.field (py "id") node = .str answer.1 ∧ NodeAllows node answer.2)
      (inputNodes card) answers

/-- A session that was registered for the card. -/
structure Registered (capabilities : CardCapabilities) (result : InteractiveCard)
    (session : CardSession) : Prop where
  inputIds : session.inputIds = result.inputIds
  actionLabels : session.actionLabels = result.actionLabels
  bindingId : session.bindingId = result.bindingId
  maxInputTextBytes : session.maxInputTextBytes = capabilities.maxInputTextBytes
  maxInputsBytes : session.maxInputsBytes = capabilities.maxInputsBytes

/-- A click on one of the actions of the card, by the right operator at the right place. -/
structure Presses (result : InteractiveCard) (session : CardSession) (action : CardAction) :
    Prop where
  messageId : action.messageId = session.messageId
  channel : channelMatches action session = true
  channelType : action.channelType = session.channelType
  operator : action.operatorUid = session.requesterUid
  pressed : ∃ members, .obj members ∈ itemsOf "actions" result.card ∧
    Json.field (py "id") members = .str action.actionId ∧
    Json.field (py "data") members = .obj action.data
  submits : Submits result.card action.inputs

/-- The bounds of `parse_card_action` on the inputs of an event. -/
def WithinEvent (action : CardAction) : Prop :=
  actionInputs (.obj (action.inputs.map fun input => (input.1, .str input.2))) =
      some action.inputs ∧
    ∃ bytes, utf8Encode (envelope action.inputs action.data).print = some bytes ∧
      bytes.length ≤ maxEventEnvelopeBytes

/-- Whatever respects the card passes the verifier. -/
def AlwaysSubmits (capabilities : CardCapabilities) (result : InteractiveCard) : Prop :=
  ∀ session action, Registered capabilities result session → Presses result session action →
    actionMatchesSession action session = .ok true ∧ WithinEvent action

/-- The value respects the input. -/
def InputForm.Allows (form : InputForm) (value : PyStr) : Prop :=
  if form.kind = .choice then
    if form.multiSelect then IsJoinedSubset (form.choices.map Prod.snd) value
    else value ∈ form.choices.map Prod.snd
  else
    Encodable value ∧ (form.kind = .text →
      ∀ limit, form.maxLength = some limit → (value.length : Int) ≤ limit)

theorem field_optional {key : PyStr} {other : String} (different : py other ≠ key)
    (value : Option Json) (rest : List (PyStr × Json)) :
    Json.field key (optionalMember other value ++ rest) = Json.field key rest := by
  cases value with
  | none => rfl
  | some value => exact field_next different value rest

private theorem field_optional_self (key : String) (value : Option Json)
    (rest : List (PyStr × Json))
    (absent : Json.field (py key) rest = .null) :
    Json.field (py key) (optionalMember key value ++ rest) = value.getD .null := by
  cases value with
  | none => exact absent
  | some value => exact field_head (py key) value rest

/-- Past the type, the id and the label. -/
theorem field_node {key : PyStr} (form : InputForm) (noType : py "type" ≠ key)
    (noId : py "id" ≠ key) (noLabel : py "label" ≠ key) :
    Json.field key form.node = Json.field key
      ((if form.kind = .choice then
        (py "choices", .arr (form.choices.map fun choice => .obj (choiceNode choice))) ::
          if form.multiSelect then [(py "isMultiSelect", .bool true)] else []
      else []) ++ (optionalMember "placeholder" (form.placeholder.map .str) ++
        optionalMember "maxLength" (form.maxLength.map .int))) := by
  rw [InputForm.node, List.append_assoc, List.append_assoc, List.append_assoc, List.cons_append,
    List.cons_append, List.nil_append, field_next noType, field_next noId,
    field_optional noLabel]

private theorem maxLength_node {form : InputForm} (noChoice : form.kind ≠ .choice) :
    Json.field (py "maxLength") form.node = (form.maxLength.map Json.int).getD .null := by
  rw [field_node form (by decide) (by decide) (by decide), if_neg noChoice, List.nil_append,
    field_optional (by decide), ← List.append_nil (optionalMember "maxLength" _)]
  exact field_optional_self "maxLength" _ [] rfl

private theorem offeredValues_node {form : InputForm} (choice : form.kind = .choice) :
    offeredValues form.node = form.choices.map Prod.snd := by
  have listed : itemsOf "choices" form.node =
      form.choices.map fun choice => .obj (choiceNode choice) := by
    rw [itemsOf, field_node form (by decide) (by decide) (by decide), if_pos choice,
      List.cons_append, field_head]
  rw [offeredValues, listed, List.filterMap_map, ← List.filterMap_eq_map]
  congr 1

private theorem multiSelect_node {form : InputForm} (choice : form.kind = .choice) :
    isMultiSelect form.node = form.multiSelect := by
  rw [isMultiSelect, field_node form (by decide) (by decide) (by decide), if_pos choice, List.cons_append,
    field_next (by decide)]
  by_cases multiSelect : form.multiSelect
  · rw [if_pos multiSelect, List.cons_append, field_head, multiSelect]
  · rw [if_neg multiSelect, List.nil_append, field_optional (by decide),
      ← List.append_nil (optionalMember "maxLength" _), field_optional (by decide)]
    exact (Bool.not_eq_true _ ▸ multiSelect).symm

/-- The type of a node tells the kind of its input. -/
private theorem InputRead.typeOf_eq {capabilities : Option CardCapabilities} {textInputs : Nat}
    {used : List PyStr} {form : InputForm} (read : InputRead capabilities textInputs used form) :
    (stringOf (typeOf form.node) = some (py "Input.ChoiceSet") ↔ form.kind = .choice) ∧
      (stringOf (typeOf form.node) = some (py "Input.Text") ↔ form.kind = .text) := by
  obtain ⟨name, inputType, known, same⟩ := read.known
  have every : ∀ entry ∈ inputTypes,
      (py entry.2.2 = py "Input.ChoiceSet" ↔ entry.2.1 = .choice) ∧
        (py entry.2.2 = py "Input.Text" ↔ entry.2.1 = .text) := by decide
  rw [typeOf_node, stringOf, Option.some.injEq, Option.some.injEq, same]
  exact every _ known

theorem InputRead.nodeAllows_iff {capabilities : Option CardCapabilities} {textInputs : Nat}
    {used : List PyStr} {form : InputForm} (read : InputRead capabilities textInputs used form)
    (value : PyStr) : NodeAllows form.node value ↔ form.Allows value := by
  obtain ⟨choiceSet, textType⟩ := read.typeOf_eq
  rw [NodeAllows, InputForm.Allows]
  by_cases choice : form.kind = .choice
  · rw [if_pos (choiceSet.mpr choice), if_pos choice, offeredValues_node choice,
      multiSelect_node choice]
  · rw [if_neg fun typed => choice (choiceSet.mp typed), if_neg choice, textType,
      maxLength_node choice]
    cases form.maxLength with
    | none => simp
    | some limit => simp

end OctoChannel.Rendering

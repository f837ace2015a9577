import OctoChannel.Mentions.Conversion
import OctoChannel.Rendering.Limits

namespace OctoChannel.Rendering

open Foundation Identity Cards

/-- A text of scalar values inside a message. -/
def shown (text : PyStr) : String := String.ofList (text.filterMap CodePoint.toChar?)

/-- `if condition: raise ValueError(message)` -/
def refuse (condition : Bool) (message : String) : Except RenderError Unit :=
  if condition then .error (.valueError message) else .ok ()

theorem refuse_ok {condition : Bool} {message : String} {passed : Unit}
    (ran : refuse condition message = .ok passed) : condition = false := by
  cases condition with
  | false => rfl
  | true => cases ran

/-- `_clean_interactive_text` -/
def cleanInteractiveText (value : Json) (field : String) (maxChars : Nat) :
    Except RenderError PyStr :=
  match value with
  | .str text =>
    match sanitizeVisibleText text with
    | .error error => .error error
    | .ok none => .error (.valueError (field ++ " must not be empty"))
    | .ok (some clean) =>
      if maxChars < clean.length then .error (.valueError (field ++ " exceeds length limit"))
      else .ok clean
  | _ => .error (.valueError (field ++ " must be a string"))

/-- An optional text argument. -/
def optionalText (value : Json) (field : String) (maxChars : Nat) :
    Except RenderError (Option PyStr) :=
  match value with
  | .null => .ok none
  | value => (cleanInteractiveText value field maxChars).map some

/-- `_clean_semantic_value` -/
def cleanSemanticValue (value : Json) (field : String) (maxChars : Nat) :
    Except RenderError PyStr :=
  match value with
  | .str text =>
    if strip text = [] ∨ maxChars < (strip text).length then
      .error (.valueError (field ++ " exceeds length limit"))
    else .ok (strip text)
  | _ => .error (.valueError (field ++ " must be a string"))

/-- `_require_card_id` and `_require_trusted_binding_id` -/
def requireCardId (value : Json) (field : String) : Except RenderError PyStr :=
  match value with
  | .str text =>
    if isCardId (strip text) then .ok (strip text)
    else .error (.valueError (field ++ " must be a safe identifier"))
  | _ => .error (.valueError (field ++ " must be a safe identifier"))

/-- The items of an argument that has a length; a mapping iterates over its keys. -/
def sequence : Json → Except RenderError (List Json)
  | .arr items => .ok items
  | .obj members => .ok (members.map fun member => .str member.1)
  | .str text => .ok (text.map fun point => .str [point])
  | _ => .error (.other (.typeError "object has no len()"))

def maxActionDataBytes : Nat := 16 * 2 ^ 10
def maxActionDataValueBytes : Nat := 512
def bindingKey : PyStr := py "_octo_binding"
def reservedStart : PyStr := py "_octo_"

mutual

/-- `_sanitize_action_data` -/
def sanitizeActionData (depth : Nat) : Json → Except RenderError Json
  | .str text =>
    match utf8Encode (strip text) with
    | none => .error (.other .unicodeError)
    | some bytes =>
      if maxActionDataValueBytes < bytes.length then
        .error (.valueError "action data value exceeds byte limit")
      else .ok (.str (strip text))
  | .null => .ok .null
  | .bool value => .ok (.bool value)
  | .int value => .ok (.int value)
  | .float text =>
    if isFiniteFloat text then .ok (.float text)
    else .error (.valueError "action data number must be finite")
  | .arr items =>
    if 5 ≤ depth then .error (.valueError "action data exceeds depth limit")
    else if 50 < items.length then .error (.valueError "action data exceeds item limit")
    else (sanitizeItems (depth + 1) items).map .arr
  | .obj members =>
    if 5 ≤ depth then .error (.valueError "action data exceeds depth limit")
    else (sanitizeMembers (depth + 1) 0 members).map .obj

def sanitizeItems (depth : Nat) : List Json → Except RenderError (List Json)
  | [] => .ok []
  | item :: rest =>
    match sanitizeActionData depth item with
    | .error error => .error error
    | .ok clean => (sanitizeItems depth rest).map (clean :: ·)

/-- The loop over the members, with the index of the next one. -/
def sanitizeMembers (depth index : Nat) :
    List (PyStr × Json) → Except RenderError (List (PyStr × Json))
  | [] => .ok []
  | (key, value) :: rest =>
    if index = 50 then .error (.valueError "action data exceeds item limit")
    else if key = bindingKey then sanitizeMembers depth (index + 1) rest
    else if reservedStart.isPrefixOf key || !isCardId key then
      .error (.valueError "action data key must be a safe identifier")
    else
      match sanitizeActionData depth value with
      | .error error => .error error
      | .ok clean => (sanitizeMembers depth (index + 1) rest).map ((key, clean) :: ·)

end

inductive InputKind where
  | text
  | number
  | date
  | time
  | toggle
  | choice
  deriving DecidableEq

/-- `_INPUT_TYPES` -/
def inputTypes : List (String × InputKind × String) :=
  [("text", .text, "Input.Text"), ("number", .number, "Input.Number"),
    ("date", .date, "Input.Date"), ("time", .time, "Input.Time"),
    ("toggle", .toggle, "Input.Toggle"), ("choice", .choice, "Input.ChoiceSet")]

/-- One input of the form, as its arguments read. -/
structure InputForm where
  id : PyStr
  kind : InputKind
  inputType : PyStr
  label : Option PyStr
  /-- Titles and values. -/
  choices : List (PyStr × PyStr)
  multiSelect : Bool
  placeholder : Option PyStr
  maxLength : Option Int

def maxLabelChars : Nat := 64

/-- One choice that is not offered yet. -/
def readChoice (offered : List PyStr) (raw : Json) : Except RenderError (PyStr × PyStr) :=
  match raw with
  | .obj choice =>
    match cleanInteractiveText (Json.field (py "title") choice) "choice title" maxLabelChars,
        cleanSemanticValue (Json.field (py "value") choice) "choice value" maxLabelChars with
    | .error error, _ => .error error
    | .ok _, .error error => .error error
    | .ok title, .ok value =>
      if value ∈ offered then .error (.valueError "choice values must be unique")
      else .ok (title, value)
  | _ => .error (.valueError "interactive card choices must be objects")

def readChoices (offered : List PyStr) : List Json → Except RenderError (List (PyStr × PyStr))
  | [] => .ok []
  | raw :: rest =>
    match readChoice offered raw with
    | .error error => .error error
    | .ok choice => (readChoices (choice.2 :: offered) rest).map (choice :: ·)

/-- The choices of an input and whether several may be selected. -/
def readChoiceSet (inputId : PyStr) (input : List (PyStr × Json)) :
    Except RenderError (List (PyStr × PyStr) × Bool) :=
  match Json.field (py "choices") input with
  | .arr (first :: rest) =>
    match readChoices [] ((first :: rest).take 128) with
    | .error error => .error error
    | .ok choices =>
      match (Dict.lookup (py "multi_select") input).getD (.bool false) with
      | .bool multiSelect => .ok (choices, multiSelect)
      | _ => .error (.valueError "choice input multi_select must be a boolean")
  | _ => .error (.valueError ("choice input " ++ shown inputId ++ " requires choices"))

/-- The limits that bound one text input. -/
def byteLimits (capabilities : CardCapabilities) (textInputs : Nat) : List Int :=
  capabilities.maxInputTextBytes.toList ++
    (capabilities.maxInputsBytes.map (· / max 1 (textInputs : Int))).toList

/-- `max(1, min(byte_limits) // 4)` when there are limits. -/
def textMaxLength (capabilities : Option CardCapabilities) (textInputs : Nat) : Option Int :=
  match capabilities.map (byteLimits · textInputs) with
  | none | some [] => none
  | some (first :: rest) => some (max 1 (rest.foldl min first / 4))

/-- `raw_input.get("kind", "text")` -/
def kindOf (input : List (PyStr × Json)) : Json :=
  (Dict.lookup (py "kind") input).getD (.str (py "text"))

def findKind (kind : Json) : Option (InputKind × String) :=
  (inputTypes.find? fun entry => some (py entry.1) = stringOf kind).map Prod.snd

/-- One round of the loop over the inputs. -/
def readInput (capabilities : Option CardCapabilities) (textInputs : Nat) (used : List PyStr)
    (raw : Json) : Except RenderError InputForm :=
  match raw with
  | .obj input => do
    let id ← requireCardId (Json.field (py "id") input) "input id"
    refuse (id ∈ used) ("duplicate interactive card id: " ++ shown id)
    match findKind (kindOf input) with
    | none => .error (.valueError "unsupported interactive card input kind")
    | some (kind, inputType) =>
      refuse (!offers capabilities CardCapabilities.inputs (py inputType))
        (inputType ++ " is not supported")
      let label ← optionalText (Json.field (py "label") input)
        ("input " ++ shown id ++ " label") maxLabelChars
      if kind = .choice then
        let (choices, multiSelect) ← readChoiceSet id input
        return ⟨id, kind, py inputType, label, choices, multiSelect, none, none⟩
      else
        let placeholder ← optionalText (Json.field (py "placeholder") input)
          ("input " ++ shown id ++ " placeholder") maxLabelChars
        let maxLength := if kind = .text then textMaxLength capabilities textInputs else none
        return ⟨id, kind, py inputType, label, [], false, placeholder, maxLength⟩
  | _ => .error (.valueError "interactive card inputs must be objects")

def readInputs (capabilities : Option CardCapabilities) (textInputs : Nat) :
    List PyStr → List Json → Except RenderError (List InputForm)
  | _, [] => .ok []
  | used, raw :: rest =>
    match readInput capabilities textInputs used raw with
    | .error error => .error error
    | .ok form => (readInputs capabilities textInputs (form.id :: used) rest).map (form :: ·)

/-- How many inputs are of kind `text`. -/
def countTextInputs (inputs : List Json) : Nat :=
  inputs.countP fun raw =>
    match raw with
    | .obj input => stringOf (kindOf input) = some (py "text")
    | _ => false

/-- A member that is only there with a value. -/
def optionalMember (key : String) (value : Option Json) : List (PyStr × Json) :=
  (value.map fun value => (py key, value)).toList

def choiceNode (choice : PyStr × PyStr) : List (PyStr × Json) :=
  [(py "title", .str choice.1), (py "value", .str choice.2)]

def InputForm.node (form : InputForm) : List (PyStr × Json) :=
  [(py "type", .str form.inputType), (py "id", .str form.id)] ++
    optionalMember "label" (form.label.map .str) ++
    (if form.kind = .choice then
      (py "choices", .arr (form.choices.map fun choice => .obj (choiceNode choice))) ::
        if form.multiSelect then [(py "isMultiSelect", .bool true)] else []
    else []) ++
    optionalMember "placeholder" (form.placeholder.map .str) ++
    optionalMember "maxLength" (form.maxLength.map .int)

/-- The line of an input in the plain text. -/
def InputForm.line (form : InputForm) : PyStr :=
  let name := form.label.getD form.id
  if form.kind = .choice then
    py "[" ++ name ++ py ": " ++ joined (py " / ") (form.choices.map Prod.fst) ++ py "]"
  else py "[" ++ name ++ py "]"

structure ButtonForm where
  id : PyStr
  label : PyStr
  /-- The data of the model, before the binding is added. -/
  data : List (PyStr × Json)
  style : Option PyStr

/-- The style of a button; arrays and objects cannot be looked up in a set. -/
def readStyle (style : Json) : Except RenderError (Option PyStr) :=
  match style with
  | .null => .ok none
  | .arr _ | .obj _ => .error (.other (.typeError "unhashable type"))
  | style =>
    match stringOf style with
    | some name =>
      if name = py "positive" ∨ name = py "destructive" then .ok (some name)
      else .error (.valueError "unsupported interactive card button style")
    | none => .error (.valueError "unsupported interactive card button style")

/-- `raw_data or {}` -/
def dataMembers (id : PyStr) (raw : Json) : Except RenderError (List (PyStr × Json)) :=
  match raw with
  | .null => .ok []
  | .obj members => .ok members
  | _ => .error (.valueError ("button " ++ shown id ++ " data must be an object"))

/-- The sanitised data of a button within the byte limit. -/
def readData (id : PyStr) (raw : Json) : Except RenderError (List (PyStr × Json)) := do
  let members ← dataMembers id raw
  let data ← sanitizeMembers 1 0 members
  match goJsonBytes (.obj data) with
  | none => .error (.other .unicodeError)
  | some bytes =>
    if maxActionDataBytes < bytes.length then .error (.cardLimit "action data exceeds byte limit")
    else .ok data

/-- One round of the loop over the buttons. -/
def readButton (used : List PyStr) (raw : Json) : Except RenderError ButtonForm :=
  match raw with
  | .obj button => do
    let id ← requireCardId (Json.field (py "id") button) "button id"
    refuse (id ∈ used) ("duplicate interactive card id: " ++ shown id)
    let label ← cleanInteractiveText (Json.field (py "label") button)
      ("button " ++ shown id ++ " label") maxLabelChars
    let data ← readData id (Json.field (py "data") button)
    let style ← readStyle (Json.field (py "style") button)
    return ⟨id, label, data, style⟩
  | _ => .error (.valueError "interactive card buttons must be objects")

def readButtons : List PyStr → List Json → Except RenderError (List ButtonForm)
  | _, [] => .ok []
  | used, raw :: rest =>
    match readButton used raw with
    | .error error => .error error
    | .ok form => (readButtons (form.id :: used) rest).map (form :: ·)

/-- The data that a click sends back. -/
def ButtonForm.boundData (form : ButtonForm) (binding : PyStr) : List (PyStr × Json) :=
  form.data ++ [(bindingKey, .str binding)]

def ButtonForm.action (form : ButtonForm) (binding : PyStr) : List (PyStr × Json) :=
  [(py "type", .str (py "Action.Submit")), (py "id", .str form.id),
    (py "title", .str form.label), (py "data", .obj (form.boundData binding))] ++
    optionalMember "style" (form.style.map .str)

structure InteractiveCard where
  card : List (PyStr × Json)
  plain : PyStr
  actionLabels : List (PyStr × PyStr)
  inputIds : List PyStr
  bindingId : PyStr

structure InteractiveArgs where
  title : Json
  buttons : Json
  bindingId : Json
  text : Json
  inputs : Json

def titleBlock (title : PyStr) : Json :=
  .obj [(py "type", .str (py "TextBlock")), (py "text", .str (literalCardText title)),
    (py "weight", .str (py "Bolder")), (py "size", .str (py "Medium")), (py "wrap", .bool true)]

def bodyBlock (text : PyStr) : Json :=
  .obj [(py "type", .str (py "TextBlock")), (py "text", .str (literalCardText text)),
    (py "wrap", .bool true), (py "spacing", .str (py "Small"))]

/-- What the arguments read as. -/
structure CardForm where
  binding : PyStr
  title : PyStr
  text : Option PyStr
  inputs : List InputForm
  buttons : List ButtonForm

def CardForm.body (form : CardForm) : List Json :=
  titleBlock form.title :: (form.text.map bodyBlock).toList ++
    form.inputs.map fun input => .obj input.node

def CardForm.actions (form : CardForm) : List Json :=
  form.buttons.map fun button => .obj (button.action form.binding)

def CardForm.card (form : CardForm) : List (PyStr × Json) :=
  [(py "$schema", .str adaptiveCardSchema), (py "type", .str (py "AdaptiveCard")),
    (py "version", .str cardVersion), (py "body", .arr form.body),
    (py "actions", .arr form.actions)]

def CardForm.plain (form : CardForm) : PyStr :=
  joined (py "\n") (form.title :: form.text.toList ++ form.inputs.map InputForm.line ++
    [py "Actions: " ++ joined (py " / ") (form.buttons.map ButtonForm.label)])

def maxTitleChars : Nat := 200
def maxTextChars : Nat := 2000
def maxButtons : Nat := 6
def maxInputs : Nat := 5

/-- The arguments, checked in the order of the source. -/
def readCard (args : InteractiveArgs) (capabilities : Option CardCapabilities) :
    Except RenderError CardForm := do
  refuse (!profileSupported capabilities cardProfileV2) "octo/v2 is not supported"
  let binding ← requireCardId args.bindingId "binding_id"
  let title ← cleanInteractiveText args.title "title" maxTitleChars
  refuse (!offers capabilities CardCapabilities.elements (py "TextBlock"))
    "TextBlock is not supported"
  refuse (!offers capabilities CardCapabilities.actions (py "Action.Submit"))
    "Action.Submit is not supported"
  refuse (!Mentions.truthy args.buttons) "interactive card requires 1-6 buttons"
  let rawButtons ← sequence args.buttons
  refuse (maxButtons < rawButtons.length) "interactive card requires 1-6 buttons"
  let rawInputs ← sequence args.inputs
  refuse (maxInputs < rawInputs.length) "interactive card supports at most 5 inputs"
  let text ← optionalText args.text "text" maxTextChars
  let inputs ← readInputs capabilities (countTextInputs rawInputs) [] rawInputs
  let buttons ← readButtons (inputs.map InputForm.id) rawButtons
  return ⟨binding, title, text, inputs, buttons⟩

/-- `build_interactive_card` -/
def buildInteractiveCard (args : InteractiveArgs) (capabilities : Option CardCapabilities) :
    Except RenderError InteractiveCard :=
  match readCard args capabilities with
  | .error error => .error error
  | .ok form =>
    match validateCardLimits form.card form.plain capabilities cardProfileV2 with
    | .error error => .error error
    | .ok _ =>
      .ok ⟨form.card, form.plain, form.buttons.map fun button => (button.id, button.label),
        form.inputs.map InputForm.id, form.binding⟩

end OctoChannel.Rendering

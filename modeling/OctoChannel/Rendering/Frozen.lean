import OctoChannel.Cards.Sessions
import OctoChannel.Foundation.Escaping
import OctoChannel.Rendering.Submitting

namespace OctoChannel.Rendering

open Foundation Identity Cards

/-- The characters that `_neutralize_action_echo` escapes. -/
def isEchoSpecial (point : CodePoint) : Bool := point ∈ py "\\`*_~[]<>"

/-- `_neutralize_action_echo` -/
def neutralizeActionEcho (value : PyStr) : PyStr := backslashEscape isEchoSpecial value

/-- What stands before the answer in the place of an input. -/
def echoStart (input : List (PyStr × Json)) (inputId : PyStr) : PyStr :=
  let label := match Json.field (py "label") input with
    | .str label => if strip label = [] then inputId else strip label
    | _ => inputId
  literalCardText label ++ py ": "

/-- The answer that is shown for an input. -/
def answerOf (inputs : List (PyStr × PyStr)) (input : List (PyStr × Json)) :
    Option (PyStr × PyStr) :=
  match Json.field (py "id") input with
  | .str inputId => (Dict.lookup inputId inputs).map (inputId, ·)
  | _ => none

def echoBlock (input : List (PyStr × Json)) (answer : PyStr × PyStr) : List (PyStr × Json) :=
  [(py "type", .str (py "TextBlock")),
    (py "text", .str (echoStart input answer.1 ++ neutralizeActionEcho answer.2)),
    (py "wrap", .bool true), (py "spacing", .str (py "Small"))]

mutual

/-- `_freeze_action_node` of an item of a list; what is no object stays. -/
def freezeItem (inputs : List (PyStr × PyStr)) : Json → Option Json
  | .obj node =>
    if isInput node then (answerOf inputs node).map fun answer => .obj (echoBlock node answer)
    else some (.obj (freezeMembers inputs node))
  | item => some item

def freezeItems (inputs : List (PyStr × PyStr)) : List Json → List Json
  | [] => []
  | item :: rest => (freezeItem inputs item).toList ++ freezeItems inputs rest

def freezeMembers (inputs : List (PyStr × PyStr)) : List (PyStr × Json) → List (PyStr × Json)
  | [] => []
  | (key, value) :: rest =>
    if key = py "actions" then freezeMembers inputs rest
    else (key, freezeValue inputs value) :: freezeMembers inputs rest

def freezeValue (inputs : List (PyStr × PyStr)) : Json → Json
  | .arr items => .arr (freezeItems inputs items)
  | value => value

end

/-- The loop over the body; items that are no objects are skipped. -/
def freezeBody (inputs : List (PyStr × PyStr)) : List Json → List Json
  | [] => []
  | .obj node :: rest => (freezeItem inputs (.obj node)).toList ++ freezeBody inputs rest
  | _ :: rest => freezeBody inputs rest

/-- What the status line says before the operator. -/
def statusStart (status label : PyStr) : PyStr :=
  if status = py "processing" then py "Processing " ++ label ++ py " for "
  else if status = py "completed" then py "Completed " ++ label ++ py " for "
  else if status = py "awaiting_text" then py "Waiting for a typed response from "
  else py "Failed " ++ label ++ py " for "

def statusLine (status label operator : PyStr) : PyStr :=
  if status = py "expired" then py "This clarification expired or was already resolved"
  else statusStart status label ++ neutralizeActionEcho operator

def statusBlock (line : PyStr) : List (PyStr × Json) :=
  [(py "type", .str (py "TextBlock")), (py "text", .str (literalCardText line)),
    (py "wrap", .bool true), (py "spacing", .str (py "Medium")), (py "separator", .bool true)]

/-- `session.action_labels.get(action.action_id, action.action_id)` -/
def labelOf (session : CardSession) (action : CardAction) : PyStr :=
  (Dict.lookup action.actionId session.actionLabels).getD action.actionId

/-- `render_card_action_status` of a session without clarify controls. -/
def renderCardActionStatus (session : CardSession) (action : CardAction) (status : PyStr) :
    CardRenderResult :=
  let members := match session.card with
    | .obj members => members
    | _ => []
  let line := statusLine status (labelOf session action) action.operatorUid
  let body := freezeBody action.inputs (itemsOf "body" members) ++ [.obj (statusBlock line)]
  let base := strip session.plain
  { card := Dict.assign (py "body") (.arr body)
      (members.filter fun member => member.1 ≠ py "actions")
    plain := joined (py "\n") ([base, line].filter fun part => part ≠ []) }

/-- A text block that shows a value literally behind the given words. -/
def EchoesAfter (words : PyStr) (block : List (PyStr × Json)) (value : PyStr) : Prop :=
  typeOf block = .str (py "TextBlock") ∧ ∃ part,
    Json.field (py "text") block = .str (words ++ part) ∧
      ShowsLiterally isEchoSpecial part value

/-- Inputs have given way to their answers, or are gone without one; every other node is
unchanged and in its order. -/
inductive Keeps (inputs : List (PyStr × PyStr)) : List Json → List Json → Prop where
  | nil : Keeps inputs [] []
  | kept {node : List (PyStr × Json)} {source target : List Json} (other : isInput node = false)
      (rest : Keeps inputs source target) : Keeps inputs (.obj node :: source) (.obj node :: target)
  | echoed {node block : List (PyStr × Json)} {answer : PyStr × PyStr} {source target : List Json}
      (input : isInput node = true) (given : answerOf inputs node = some answer)
      (shows : EchoesAfter (echoStart node answer.1) block answer.2)
      (rest : Keeps inputs source target) : Keeps inputs (.obj node :: source) (.obj block :: target)
  | dropped {node : List (PyStr × Json)} {source target : List Json} (input : isInput node = true)
      (missing : answerOf inputs node = none) (rest : Keeps inputs source target) :
      Keeps inputs (.obj node :: source) target

/-- No control is left, the other nodes are kept, and answers and operator are shown
literally. -/
structure FrozenLiterally (session : CardSession) (source : List (PyStr × Json))
    (action : CardAction) (status : PyStr) (rendered : List (PyStr × Json)) : Prop where
  noControls : ∀ node ∈ (Json.obj rendered).objects, isInput node = false ∧ isSubmit node = false
  body : ∃ kept last, itemsOf "body" rendered = kept ++ [.obj last] ∧
    Keeps action.inputs (itemsOf "body" source) kept ∧
    (status ≠ py "expired" →
      EchoesAfter (literalCardText (statusStart status (labelOf session action))) last
        action.operatorUid)

/-- A text block without anything inside, which freezing leaves alone. -/
structure PlainBlock (inputs : List (PyStr × PyStr)) (node : List (PyStr × Json)) : Prop where
  text : typeOf node = .str (py "TextBlock")
  alone : (Json.obj node).objects = [node]
  frozen : freezeMembers inputs node = node

/-- What the body of a form consists of. -/
def BodyItem (inputs : List (PyStr × PyStr)) (item : Json) : Prop :=
  ∃ node, item = .obj node ∧ (isInput node = true ∨ PlainBlock inputs node)

private theorem FormRead.bodyItems {args : InteractiveArgs} {capabilities : Option CardCapabilities}
    {form : CardForm} (read : FormRead args capabilities form) (inputs : List (PyStr × PyStr)) :
    ∀ item ∈ form.body, BodyItem inputs item := by
  obtain ⟨textInputs, each⟩ := read.inputs
  intro item member
  rw [CardForm.body, List.cons_append, List.mem_cons, List.mem_append] at member
  rcases member with rfl | text | input
  · exact ⟨_, rfl, .inr ⟨rfl, rfl, rfl⟩⟩
  · rw [Option.toList_map, List.mem_map] at text
    obtain ⟨text, _, rfl⟩ := text
    exact ⟨_, rfl, .inr ⟨rfl, rfl, rfl⟩⟩
  · obtain ⟨form, present, rfl⟩ := List.mem_map.mp input
    exact ⟨_, rfl, .inl (each form present).isInput.1⟩

theorem echoSpecial_backslash : isEchoSpecial (ch '\\') = true := by decide

theorem echoSpecial_punctuation (point : CodePoint) (special : isEchoSpecial point = true) :
    isPunctuation point = true := by
  have listed : point ∈ py "\\`*_~[]<>" := by
    simpa only [isEchoSpecial, decide_eq_true_eq] using special
  have marks : py "\\`*_~[]<>" =
      [ch '\\', ch '`', ch '*', ch '_', ch '~', ch '[', ch ']', ch '<', ch '>'] := rfl
  rw [marks] at listed
  simp only [List.mem_cons, List.not_mem_nil, or_false] at listed
  rcases listed with rfl | rfl | rfl | rfl | rfl | rfl | rfl | rfl | rfl
  all_goals decide

private theorem echoBlock_shows (node : List (PyStr × Json)) (answer : PyStr × PyStr) :
    EchoesAfter (echoStart node answer.1) (echoBlock node answer) answer.2 :=
  ⟨rfl, _, rfl, showsLiterally_escape echoSpecial_backslash echoSpecial_punctuation answer.2⟩

/-- A frozen body keeps what is no input. -/
private theorem freezeBody_keeps {inputs : List (PyStr × PyStr)} {body : List Json}
    (items : ∀ item ∈ body, BodyItem inputs item) :
    Keeps inputs body (freezeBody inputs body) := by
  induction body with
  | nil => exact .nil
  | cons item rest ih =>
    rw [List.forall_mem_cons] at items
    obtain ⟨⟨node, rfl, kind⟩, later⟩ := items
    rcases kind with input | plain
    · cases given : answerOf inputs node with
      | none =>
        simp only [freezeBody, freezeItem, input, given, if_true, Option.map_none,
          Option.toList_none, List.nil_append]
        exact .dropped input given (ih later)
      | some answer =>
        simp only [freezeBody, freezeItem, input, given, if_true, Option.map_some,
          Option.toList_some, List.cons_append, List.nil_append]
        exact .echoed input given (echoBlock_shows node answer) (ih later)
    · have other := (not_input_of_text plain.text).1
      simp only [freezeBody, freezeItem, other, Bool.false_eq_true, if_false, plain.frozen,
        Option.toList_some, List.cons_append, List.nil_append]
      exact .kept other (ih later)

/-- A frozen body has no control at any depth. -/
private theorem freezeBody_noControls {inputs : List (PyStr × PyStr)} {body : List Json}
    (items : ∀ item ∈ body, BodyItem inputs item) :
    ∀ item ∈ freezeBody inputs body, ∀ node ∈ item.objects,
      isInput node = false ∧ isSubmit node = false := by
  induction body with
  | nil => simp [freezeBody]
  | cons item rest ih =>
    rw [List.forall_mem_cons] at items
    obtain ⟨⟨node, rfl, kind⟩, later⟩ := items
    intro item member
    rw [freezeBody, List.mem_append, Option.mem_toList] at member
    rcases member with here | there
    · rcases kind with input | plain
      · simp only [freezeItem, input, if_true, Option.map_eq_some_iff] at here
        obtain ⟨answer, _, rfl⟩ := here
        intro shown within
        have only : (Json.obj (echoBlock node answer)).objects = [echoBlock node answer] := rfl
        rw [only, List.mem_singleton] at within
        rw [within]
        exact not_input_of_text rfl
      · have other := (not_input_of_text plain.text).1
        simp only [freezeItem, other, Bool.false_eq_true, if_false, plain.frozen,
          Option.some.injEq] at here
        intro shown within
        rw [← here, plain.alone, List.mem_singleton] at within
        rw [within]
        exact not_input_of_text plain.text
    · exact ih later item there

private theorem literalCardText_append (first second : PyStr) :
    literalCardText (first ++ second) = literalCardText first ++ literalCardText second :=
  List.flatMap_append

def isLinkOpener (point : CodePoint) : Bool := point = ch '\\' ∨ point = ch '['

theorem literalCardText_eq (text : PyStr) :
    literalCardText text = backslashEscape isLinkOpener text := by
  simp [literalCardText, backslashEscape, isLinkOpener]

/-- Markdown undoes the escape of the card text. -/
private theorem unescape_literalCardText (text : PyStr) : unescape
    (literalCardText text) = text := by
  rw [literalCardText_eq]
  refine unescape_escape (by decide) ?_ text
  intro point opener
  simp only [isLinkOpener, decide_eq_true_eq] at opener
  rcases opener with rfl | rfl
  · decide
  · decide

/-- The operator is escaped twice, so only one without special characters is shown. -/
private theorem operator_shown_iff (operator : PyStr) :
    ShowsLiterally isEchoSpecial (literalCardText (neutralizeActionEcho operator)) operator ↔
      ∀ point ∈ operator, isEchoSpecial point = false := by
  rw [← backslashEscape_eq_iff]
  constructor
  · intro shows
    have shown := shows.shown
    rwa [unescape_literalCardText] at shown
  · intro plain
    have literal : literalCardText (neutralizeActionEcho operator) =
        backslashEscape isEchoSpecial operator := by
      rw [neutralizeActionEcho, plain, literalCardText_eq, backslashEscape_eq_iff]
      have free := backslashEscape_eq_iff operator |>.mp plain
      intro point member
      have ordinary := free point member
      rw [Bool.eq_false_iff] at ordinary ⊢
      intro opener
      apply ordinary
      simp only [isLinkOpener, decide_eq_true_eq] at opener
      rcases opener with rfl | rfl
      · decide
      · decide
    rw [literal]
    exact showsLiterally_escape echoSpecial_backslash echoSpecial_punctuation operator

/-- A session of a form that the builder returned. Clarify controls are switched off
(`native_clarify_supported`), so no session has them. -/
structure SessionOf (result : InteractiveCard) (session : CardSession) : Prop where
  card : session.card = .obj result.card
  labels : session.actionLabels = result.actionLabels
  plain : session.plain = result.plain
  clarify : session.clarify = none

/-- A form without its controls. -/
def frozenCard (body : List Json) : List (PyStr × Json) :=
  [(py "$schema", .str adaptiveCardSchema), (py "type", .str (py "AdaptiveCard")),
    (py "version", .str cardVersion), (py "body", .arr body)]

theorem rendered_card {session : CardSession} {form : CardForm}
    (card : session.card = .obj form.card) (action : CardAction) (status : PyStr) :
    (renderCardActionStatus session action status).card =
      frozenCard (freezeBody action.inputs form.body ++ [.obj (statusBlock
        (statusLine status (labelOf session action) action.operatorUid))]) := by
  simp only [renderCardActionStatus, card, itemsOf_body]
  rfl

theorem itemsOf_frozenCard (body : List Json) : itemsOf "body" (frozenCard body) = body := by
  rw [itemsOf, frozenCard, field_next (by decide), field_next (by decide),
    field_next (by decide), field_head]

private theorem mem_frozenCard {body : List Json} {node : List (PyStr × Json)}
    (member : node ∈ (Json.obj (frozenCard body)).objects) :
    node = frozenCard body ∨ ∃ item ∈ body, node ∈ item.objects := by
  have within : (Json.obj (frozenCard body)).objects =
      frozenCard body :: (Json.arr body).objects := by
    simp [Json.objects_obj, frozenCard]
  rw [within, List.mem_cons, Json.objects_arr, List.mem_flatMap] at member
  exact member

private theorem frozenCard_noControls {inputs : List (PyStr × PyStr)} {body : List Json}
    (items : ∀ item ∈ body, BodyItem inputs item) (line : PyStr) :
    ∀ node ∈ (Json.obj (frozenCard (freezeBody inputs body ++ [.obj (statusBlock line)]))).objects,
      isInput node = false ∧ isSubmit node = false := by
  intro node member
  rcases mem_frozenCard member with rfl | ⟨item, present, within⟩
  · have root : typeOf (frozenCard (freezeBody inputs body ++ [.obj (statusBlock line)])) =
        .str (py "AdaptiveCard") := by
      rw [typeOf, frozenCard, field_next (by decide), field_head]
    simp only [isInput, isSubmit, root, stringOf]
    decide
  · rw [List.mem_append, List.mem_singleton] at present
    rcases present with kept | rfl
    · exact freezeBody_noControls items item kept node within
    · have alone : (Json.obj (statusBlock line)).objects = [statusBlock line] := rfl
      rw [alone, List.mem_singleton] at within
      rw [within]
      exact not_input_of_text rfl

/-- The status line shows an operator that has no special character. -/
theorem statusBlock_shows_iff {status : PyStr} (named : status ≠ py "expired")
    (label operator : PyStr) :
    EchoesAfter (literalCardText (statusStart status label))
        (statusBlock (statusLine status label operator)) operator ↔
      ∀ point ∈ operator, isEchoSpecial point = false := by
  rw [← operator_shown_iff]
  have shown : Json.field (py "text") (statusBlock (statusLine status label operator)) =
      .str (literalCardText (statusStart status label) ++
        literalCardText (neutralizeActionEcho operator)) := by
    rw [← literalCardText_append, statusLine, if_neg named]
    rfl
  constructor
  · rintro ⟨_, part, text, literal⟩
    rw [shown, Json.str.injEq, List.append_cancel_left_eq] at text
    rwa [text]
  · intro literal
    exact ⟨rfl, _, shown, literal⟩

/-- A frozen form that is as it should be names an operator without special characters. -/
theorem FrozenLiterally.operator_plain {session : CardSession} {form : CardForm}
    (card : session.card = .obj form.card) {action : CardAction} {status : PyStr}
    (frozen : FrozenLiterally session form.card action status
      (renderCardActionStatus session action status).card)
    (named : status ≠ py "expired") :
    ∀ point ∈ action.operatorUid, isEchoSpecial point = false := by
  obtain ⟨kept, last, same, _, shows⟩ := frozen.body
  rw [rendered_card card, itemsOf_frozenCard] at same
  obtain ⟨_, ends⟩ := List.append_inj' same rfl
  have echoed := shows named
  rwa [← Json.obj.inj (List.cons.inj ends).1, statusBlock_shows_iff named] at echoed

/-- A frozen form shows the operator literally exactly when it does not show the operator at
all or the operator has no special character; the rest of the card is as it should be. -/
theorem frozenCard_literal_iff {args : InteractiveArgs} {capabilities : Option CardCapabilities}
    {result : InteractiveCard} {session : CardSession}
    (built : buildInteractiveCard args capabilities = .ok result)
    (registered : SessionOf result session) (action : CardAction) (status : PyStr) :
    FrozenLiterally session result.card action status
        (renderCardActionStatus session action status).card ↔
      status = py "expired" ∨ ∀ point ∈ action.operatorUid, isEchoSpecial point = false := by
  cases ran : readCard args capabilities with
  | error error => simp [buildInteractiveCard, ran] at built
  | ok form =>
    have read := readCard_ok ran
    cases checked : validateCardLimits form.card form.plain capabilities cardProfileV2 with
    | error error => simp [buildInteractiveCard, ran, checked] at built
    | ok passed =>
      simp only [buildInteractiveCard, ran, checked, Except.ok.injEq] at built
      subst built
      have items := read.bodyItems action.inputs
      constructor
      · intro frozen
        by_cases expired : status = py "expired"
        · exact .inl expired
        · exact .inr (frozen.operator_plain registered.card expired)
      · intro plain
        rw [rendered_card registered.card]
        refine ⟨frozenCard_noControls items _, _, _, itemsOf_frozenCard _, ?_, ?_⟩
        · rw [itemsOf_body]
          exact freezeBody_keeps items
        · intro named
          rw [statusBlock_shows_iff named]
          exact plain.resolve_left named

/-- A click on the sample form. -/
def samplePress (operator : PyStr) : CardAction :=
  { formPress sampleForm goButton [(py "why", py "a*b")] with operatorUid := operator }

theorem frozenCard_literal_iff_sample :
    FrozenLiterally (formSession smallInputs sampleForm) sampleForm.card (samplePress (py "u1"))
        (py "completed") (renderCardActionStatus (formSession smallInputs sampleForm)
          (samplePress (py "u1")) (py "completed")).card ↔
      py "completed" = py "expired" ∨ ∀ point ∈ py "u1", isEchoSpecial point = false :=
  frozenCard_literal_iff buildInteractiveCard_sample ⟨rfl, rfl, rfl, rfl⟩ (samplePress (py "u1"))
    (py "completed")

/-- An underscore in the uid of the operator is shown with a backslash. -/
theorem frozenCard_backslash :
    buildInteractiveCard sampleArgs (some smallInputs) = .ok (resultOf sampleForm) ∧
      SessionOf (resultOf sampleForm) (formSession smallInputs sampleForm) ∧
      ¬ FrozenLiterally (formSession smallInputs sampleForm) sampleForm.card
        (samplePress (py "user_1")) (py "completed")
        (renderCardActionStatus (formSession smallInputs sampleForm) (samplePress (py "user_1"))
          (py "completed")).card := by
  refine ⟨buildInteractiveCard_sample, ⟨rfl, rfl, rfl, rfl⟩, ?_⟩
  intro frozen
  have plain := frozen.operator_plain rfl (by decide) (ch '_') (by decide)
  exact absurd plain (by decide)

end OctoChannel.Rendering

import OctoChannel.Rendering.Interactive
import OctoChannel.Rendering.Phases

namespace OctoChannel.Rendering

open Foundation Identity Cards

/-- `_display_resource_url`, `_origin_domain` and `sanitize_action_url`. -/
structure CardUrls where
  displayResourceUrl : Json → Except RenderError PyStr
  originDomain : PyStr → Option PyStr
  sanitizeActionUrl : PyStr → Except RenderError PyStr

/-- The keywords of `_text_element`. -/
structure TextStyle where
  bold : Bool
  size : Option String
  subtle : Bool
  spacing : Option String

def plainStyle (spacing : Option String) : TextStyle := ⟨false, none, false, spacing⟩

/-- `_text_element` -/
def textElement (text : PyStr) (style : TextStyle) : List (PyStr × Json) :=
  [(py "type", .str (py "TextBlock")), (py "text", .str (literalCardText text)),
    (py "wrap", .bool true)] ++
    (if style.bold then [(py "weight", .str (py "Bolder"))] else []) ++
    optionalMember "size" (style.size.map fun size => .str (py size)) ++
    (if style.subtle then [(py "isSubtle", .bool true)] else []) ++
    optionalMember "spacing" (style.spacing.map fun spacing => .str (py spacing))

/-- `_display_label` -/
def displayLabel (text : PyStr) (spacing : Option String) : List (PyStr × Json) :=
  textElement text ⟨true, some "Small", true, spacing⟩

/-- An element of the display card with the spacing of its group. -/
def grouped (element : List (PyStr × Json)) (spacing : Option String) : List (PyStr × Json) :=
  element ++ optionalMember "spacing" (spacing.map fun spacing => .str (py spacing))

def containerElement (items : List Json) : List (PyStr × Json) :=
  [(py "type", .str (py "Container")), (py "items", .arr items)]

def factNode (fact : PyStr × PyStr) : List (PyStr × Json) :=
  [(py "title", .str (literalCardText fact.1)), (py "value", .str (literalCardText fact.2))]

def factSetElement (facts : List (PyStr × PyStr)) : List (PyStr × Json) :=
  [(py "type", .str (py "FactSet")),
    (py "facts", .arr (facts.map fun fact => .obj (factNode fact)))]

def imageElement (url alt : PyStr) : List (PyStr × Json) :=
  [(py "type", .str (py "Image")), (py "url", .str url),
    (py "altText", .str (literalCardText alt))]

def openUrlAction (link : PyStr × PyStr) : List (PyStr × Json) :=
  [(py "type", .str (py "Action.OpenUrl")), (py "title", .str link.1), (py "url", .str link.2)]

def linkSetElement (links : List (PyStr × PyStr)) : List (PyStr × Json) :=
  [(py "type", .str (py "ActionSet")),
    (py "actions", .arr (links.map fun link => .obj (openUrlAction link)))]

/-- `_require_element` -/
def requireElement (capabilities : Option CardCapabilities) (element : String) :
    Except RenderError Unit :=
  refuse (!offers capabilities CardCapabilities.elements (py element))
    (element ++ " is not supported")

/-- A block that was read; what has no visible text is left out. -/
inductive DisplayBlock where
  | heading (text : Option PyStr)
  | text (text : Option PyStr)
  | parts (parts : List (Bool × PyStr))
  | facts (facts : List (PyStr × PyStr))
  | image (image : Option (PyStr × PyStr × PyStr))
  | links (links : List (PyStr × PyStr))

/-- `_block_text` -/
def blockText (block : List (PyStr × Json)) : Except RenderError (Option PyStr) :=
  match Json.field (py "text") block with
  | .str text => sanitizeVisibleText text
  | _ => .error (.valueError "display card block text must be a string")

/-- One field of a section; the flag tells a label from a text. -/
def readPart (capabilities : Option CardCapabilities) (block : List (PyStr × Json))
    (field : String) (isLabel : Bool) : Except RenderError (List (Bool × PyStr)) :=
  match Json.field (py field) block with
  | .null => .ok []
  | .str raw => do
    let clean ← sanitizeVisibleText raw
    match clean with
    | none => .ok []
    | some clean =>
      let _ ← requireElement capabilities "TextBlock"
      .ok [(isLabel, clean)]
  | _ => .error (.valueError ("display section " ++ field ++ " must be a string"))

def readParts (capabilities : Option CardCapabilities) (block : List (PyStr × Json)) :
    Except RenderError (List (Bool × PyStr)) := do
  let title ← readPart capabilities block "title" true
  let text ← readPart capabilities block "text" false
  .ok (title ++ text)

def readFact (fact : Json) : Except RenderError (List (PyStr × PyStr)) :=
  match fact with
  | .obj members =>
    match Json.field (py "label") members, Json.field (py "value") members with
    | .str label, .str value => do
      let cleanLabel ← sanitizeVisibleText label
      let cleanValue ← sanitizeVisibleText value
      .ok ((cleanLabel.bind fun label => cleanValue.map fun value => (label, value)).toList)
    | _, _ => .error (.valueError "display fact fields must be strings")
  | _ => .error (.valueError "display facts must be objects")

def readLink (urls : CardUrls) (action : Json) : Except RenderError (List (PyStr × PyStr)) :=
  match action with
  | .obj members =>
    match Json.field (py "label") members, Json.field (py "url") members with
    | .str label, .str url => do
      let clean ← sanitizeVisibleText label
      match clean with
      | none => .ok []
      | some clean => (urls.sanitizeActionUrl url).map fun safe => [(clean, safe)]
    | _, _ => .error (.valueError "display action fields must be strings")
  | _ => .error (.valueError "display actions must be objects")

/-- The loop over the items of a block. -/
def readEach {Item : Type} (read : Json → Except RenderError (List Item)) :
    List Json → Except RenderError (List Item)
  | [] => .ok []
  | item :: rest =>
    match read item with
    | .error error => .error error
    | .ok first => (readEach read rest).map (first ++ ·)

def readFacts (block : List (PyStr × Json)) : Except RenderError (List (PyStr × PyStr)) :=
  match Json.field (py "items") block with
  | .arr items =>
    if 50 < items.length then .error (.valueError "display facts must contain at most 50 items")
    else readEach readFact items
  | _ => .error (.valueError "display facts must contain at most 50 items")

def maxInteractiveButtons : Nat := 6

def readLinks (urls : CardUrls) (block : List (PyStr × Json)) :
    Except RenderError (List (PyStr × PyStr)) :=
  match Json.field (py "items") block with
  | .arr items =>
    if items = [] ∨ maxInteractiveButtons < items.length then
      .error (.valueError "display actions must contain 1-6 items")
    else readEach (readLink urls) items
  | _ => .error (.valueError "display actions must contain 1-6 items")

def readImage (urls : CardUrls) (block : List (PyStr × Json)) :
    Except RenderError (Option (PyStr × PyStr × PyStr)) := do
  let url ← urls.displayResourceUrl (Json.field (py "url") block)
  match Json.field (py "alt") block with
  | .str alt =>
    let clean ← sanitizeVisibleText alt
    match clean with
    | none => .ok none
    | some clean =>
      match urls.originDomain url with
      | none => .error (.valueError "display image URL must be a safe http URL")
      | some origin => .ok (some (url, clean, origin))
  | _ => .error (.valueError "display image alt must be a string")

def readBlock (urls : CardUrls) (capabilities : Option CardCapabilities) (block : Json) :
    Except RenderError DisplayBlock :=
  match block with
  | .obj members =>
    if !isHashable (Json.field (py "type") members) then
      .error (.other (.typeError "unhashable type"))
    else
      match stringOf (Json.field (py "type") members) with
      | none => .error (.valueError "unsupported display card block type")
      | some kind =>
        if kind = py "heading" then (blockText members).map .heading
        else if kind = py "text" then (blockText members).map .text
        else if kind = py "section" then (readParts capabilities members).map .parts
        else if kind = py "facts" then (readFacts members).map .facts
        else if kind = py "image" then (readImage urls members).map .image
        else if kind = py "actions" then (readLinks urls members).map .links
        else .error (.valueError "unsupported display card block type")
  | _ => .error (.valueError "display card blocks must be objects")

/-- What stands before a line decides on its spacing. -/
inductive Preceding where
  | nothing
  | label
  | text
  | group

/-- `_DISPLAY_TEXT_SPACING` -/
def displayTextSpacing : Preceding → Option String
  | .nothing => none
  | .label => some "Small"
  | .text => none
  | .group => some "Medium"

structure DisplayState where
  body : List Json
  plainLines : List PyStr
  previous : Preceding

def DisplayState.groupSpacing (state : DisplayState) : Option String :=
  if state.body = [] then none else some "Medium"

def DisplayState.append (state : DisplayState) (elements : List (List (PyStr × Json)))
    (lines : List PyStr) (previous : Preceding) : DisplayState :=
  ⟨state.body ++ elements.map .obj, state.plainLines ++ lines, previous⟩

def pairLine (pair : PyStr × PyStr) : PyStr := pair.1 ++ py ": " ++ pair.2

/-- The lines that a block adds to the plain text. -/
def DisplayBlock.lines : DisplayBlock → List PyStr
  | .heading line => line.toList
  | .text line => line.toList
  | .parts lines => lines.map Prod.snd
  | .facts pairs => pairs.map pairLine
  | .image shown => shown.toList.map fun shown => pairLine (shown.2.1, shown.2.2)
  | .links pairs => pairs.map pairLine

/-- The elements of a section, the first without spacing. -/
def partElement (first : Bool) (part : Bool × PyStr) : List (PyStr × Json) :=
  if part.1 then displayLabel part.2 (if first then none else some "Medium")
  else textElement part.2 (plainStyle (if first then none else some "Small"))

def partElements : List (Bool × PyStr) → List (List (PyStr × Json))
  | [] => []
  | part :: rest => partElement true part :: rest.map (partElement false)

/-- The rich element of a block where it is advertised, else its lines. -/
def richOrLines (capabilities : Option CardCapabilities) (advertised : Bool)
    (element : List (PyStr × Json)) (lines : List PyStr) (state : DisplayState) :
    Except RenderError DisplayState :=
  if advertised then
    .ok (state.append [grouped element state.groupSpacing] lines .group)
  else
    (requireElement capabilities "TextBlock").map fun _ =>
      state.append (lines.map fun line => textElement line (plainStyle none)) lines .group

def DisplayState.regroup (state : DisplayState) : DisplayState := { state with previous := .group }

def showBlock (capabilities : Option CardCapabilities) (block : DisplayBlock)
    (state : DisplayState) : Except RenderError DisplayState :=
  let offered := offers capabilities CardCapabilities.elements
  match block with
  | .heading none | .text none => .ok state
  | .heading (some text) =>
    (requireElement capabilities "TextBlock").map fun _ =>
      state.append [displayLabel text state.groupSpacing] [text] .label
  | .text (some text) =>
    (requireElement capabilities "TextBlock").map fun _ =>
      state.append [textElement text (plainStyle (displayTextSpacing state.previous))] [text] .text
  | .parts [] | .facts [] | .image none | .links [] => .ok state.regroup
  | .parts (part :: rest) =>
    let elements := partElements (part :: rest)
    let shown := if offered (py "Container") then
        [grouped (containerElement (elements.map .obj)) state.groupSpacing]
      else elements
    .ok (state.append shown ((part :: rest).map Prod.snd) .group)
  | .facts (fact :: rest) =>
    richOrLines capabilities (offered (py "FactSet")) (factSetElement (fact :: rest))
      ((fact :: rest).map pairLine) state
  | .image (some (url, alt, origin)) =>
    richOrLines capabilities (offered (py "Image")) (imageElement url alt)
      [pairLine (alt, origin)] state
  | .links (link :: rest) =>
    richOrLines capabilities
      (offered (py "ActionSet") &&
        offers capabilities CardCapabilities.actions (py "Action.OpenUrl"))
      (linkSetElement (link :: rest)) ((link :: rest).map pairLine) state

def showBlocks (urls : CardUrls) (capabilities : Option CardCapabilities) :
    List Json → DisplayState → Except RenderError DisplayState
  | [], state => .ok state
  | block :: rest, state =>
    match readBlock urls capabilities block with
    | .error error => .error error
    | .ok read =>
      match showBlock capabilities read state with
      | .error error => .error error
      | .ok next => showBlocks urls capabilities rest next

/-- The title above the blocks. -/
def showTitle (capabilities : Option CardCapabilities) (title : Json) :
    Except RenderError DisplayState :=
  match title with
  | .null => .ok ⟨[], [], .nothing⟩
  | .str title => do
    let clean ← sanitizeVisibleText title
    match clean with
    | none => .ok ⟨[], [], .nothing⟩
    | some clean =>
      (requireElement capabilities "TextBlock").map fun _ =>
        ⟨[.obj (textElement clean ⟨true, some "Large", false, none⟩)], [clean], .group⟩
  | _ => .error (.valueError "display card title must be a string")

def adaptiveCard (body : List Json) : List (PyStr × Json) :=
  [(py "$schema", .str adaptiveCardSchema), (py "type", .str (py "AdaptiveCard")),
    (py "version", .str cardVersion), (py "body", .arr body)]

def maxDisplayBlocks : Nat := 100

/-- `build_display_card` -/
def buildDisplayCard (urls : CardUrls) (blocks : List Json) (title : Json)
    (capabilities : Option CardCapabilities) : Except RenderError CardRenderResult :=
  if !profileSupported capabilities cardProfileV1 then
    .error (.valueError "octo/v1 is not supported")
  else if maxDisplayBlocks < blocks.length then
    .error (.cardLimit "display card exceeds block limit")
  else
    match showTitle capabilities title with
    | .error error => .error error
    | .ok start =>
      match showBlocks urls capabilities blocks start with
      | .error error => .error error
      | .ok state =>
        let plain := strip (joined (py "\n") state.plainLines)
        if state.body = [] ∨ plain = [] then
          .error (.valueError "display card requires visible text")
        else
          match validateCardLimits (adaptiveCard state.body) plain capabilities cardProfileV1 with
          | .error error => .error error
          | .ok _ => .ok ⟨adaptiveCard state.body, plain⟩

end OctoChannel.Rendering

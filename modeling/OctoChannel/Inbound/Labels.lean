import Mathlib.Data.List.DropRight
import OctoChannel.Chats.ChannelIds
import OctoChannel.Foundation.ByteSizes
import OctoChannel.Inbound.Payload

namespace OctoChannel.Inbound

open Foundation Mentions Chats

/-- The exceptions that rendering can end with. -/
inductive Fault where
  | typeError
  | attributeError
  | unicodeEncodeError
  | recursionError
  deriving DecidableEq

/-- `except (TypeError, ValueError)`; `UnicodeEncodeError` is a `ValueError`. -/
def Fault.IsCaught : Fault → Prop
  | .typeError | .unicodeEncodeError => True
  | .attributeError | .recursionError => False

instance (fault : Fault) : Decidable fault.IsCaught := by
  cases fault <;> unfold Fault.IsCaught <;> infer_instance

/-- What rendering takes from around it: `\d` and the category `Cf` of Unicode, `str` of a value
that is no text, `==` of dictionary keys, and the addresses of media. `json.loads` reads no
number and no nesting that `str` would not print again. -/
structure Resolver where
  digits : DigitChars
  isFormat : CodePoint → Bool
  surrogate : ∀ point : CodePoint, point.toChar? = none → isFormat point = false
  str : Json → PyStr
  equal : Json → Json → Bool
  apiUrl : PyStr
  cdnUrl : PyStr

namespace Resolver

variable (resolver : Resolver)

/-- `f"{value}"` -/
def format : Json → PyStr
  | .str text => text
  | value => resolver.str value

def fallbackFileName : PyStr := py "未知文件"

/-- `value[dot:]` at the last dot, unless it is the first character or the part is long. -/
def shortSuffix (value : PyStr) (maxBytes : Nat) : PyStr :=
  match beforeLast (ch '.') value with
  | none => []
  | some front =>
    let suffix := value.drop front.length
    if front = [] ∨ min 32 (maxBytes / 2) < weigh pointBytes suffix then [] else suffix

/-- `encode("utf-8")[:budget].decode("utf-8", "ignore")`: a character that is cut is dropped. -/
def fittingPrefix : Nat → PyStr → PyStr
  | _, [] => []
  | budget, point :: rest =>
    if pointBytes point ≤ budget then point :: fittingPrefix (budget - pointBytes point) rest else []

/-- `_truncate_utf8_filename` -/
def truncateUtf8Filename (value : PyStr) (maxBytes : Nat) : Except Fault PyStr :=
  match utf8Encode value with
  | none => .error .unicodeEncodeError
  | some encoded =>
    if encoded.length ≤ maxBytes then .ok value
    else
      let suffix := shortSuffix value maxBytes
      let stem := value.take (value.length - suffix.length)
      let truncated := fittingPrefix (maxBytes - weigh pointBytes suffix) stem
      .ok ((if truncated = [] then py "file" else truncated) ++ suffix)

/-- The category `Cc`. -/
def isControl (point : CodePoint) : Bool :=
  point.val < 0x20 || (0x7f ≤ point.val && point.val < 0xa0)

/-- A text that is no plain name of a file. Without a slash the basename is the text itself. -/
def refusedName (text : PyStr) : Bool :=
  text.any (fun point => point = ch '/' || point = ch '\\' || isControl point) ||
    text = [] || text = py "." || text = py ".."

def displayChar (point : CodePoint) : CodePoint :=
  if isControl point || resolver.isFormat point then ch '_'
  else if point = ch '[' then ch '('
  else if point = ch ']' then ch ')'
  else point

def maxMediaFilenameBytes : Nat := 255

/-- `_inbound_file_display_name` -/
def inboundFileDisplayName (value : Json) : Except Fault PyStr :=
  match value with
  | .str text =>
    if refusedName text then .ok fallbackFileName
    else truncateUtf8Filename (text.map resolver.displayChar) maxMediaFilenameBytes
  | _ => .ok fallbackFileName

/-- The names that can be shown: one that is refused anyway, or one without lone surrogates. -/
def SafeName (name : Json) : Prop :=
  ∀ text, name = .str text → refusedName text = false → Foundation.Encodable text

theorem encodable_displayChars {text : PyStr} :
    Foundation.Encodable (text.map resolver.displayChar) ↔ Foundation.Encodable text := by
  have each : ∀ point : CodePoint,
      (resolver.displayChar point).toChar?.isSome = point.toChar?.isSome := by
    intro point
    cases scalar : point.toChar? with
    | none =>
      have control : isControl point = false := by
        by_contra shown
        have small : point.val < 0xa0 := by
          simp only [isControl, Bool.not_eq_false, Bool.or_eq_true, Bool.and_eq_true,
            decide_eq_true_eq] at shown
          omega
        have valid : point.val.isValidChar := .inl (by omega)
        rw [CodePoint.toChar?, dif_pos valid] at scalar
        cases scalar
      have bracket : ∀ char : Char, point ≠ CodePoint.ofChar char := by
        intro char same
        rw [same, CodePoint.toChar?_ofChar] at scalar
        cases scalar
      rw [displayChar, control, resolver.surrogate point scalar, if_neg (by simp),
        if_neg (bracket '['), if_neg (bracket ']'), scalar]
    | some char =>
      rw [displayChar]
      split_ifs
      · rw [CodePoint.toChar?_ofChar]
        rfl
      · rw [CodePoint.toChar?_ofChar]
        rfl
      · rw [CodePoint.toChar?_ofChar]
        rfl
      · rw [scalar]
  simp only [Foundation.Encodable, List.forall_mem_map, each]

private theorem truncateUtf8Filename_ok {value : PyStr} (encodable : Foundation.Encodable value)
    (maxBytes : Nat) : ∃ name, truncateUtf8Filename value maxBytes = .ok name := by
  obtain ⟨bytes, encoded, _⟩ := utf8Encode_of_encodable encodable
  rw [truncateUtf8Filename, encoded]
  dsimp only
  by_cases short : bytes.length ≤ maxBytes
  · exact ⟨value, if_pos short⟩
  · exact ⟨_, if_neg short⟩

private theorem truncateUtf8Filename_error {value : PyStr} (lone : ¬ Foundation.Encodable value)
    (maxBytes : Nat) : truncateUtf8Filename value maxBytes = .error .unicodeEncodeError := by
  rw [← utf8Encode_isSome_iff, Option.isSome_iff_ne_none, not_not] at lone
  rw [truncateUtf8Filename, lone]

theorem inboundFileDisplayName_ok {name : Json} (safe : SafeName name) :
    ∃ shown, resolver.inboundFileDisplayName name = .ok shown := by
  cases name with
  | str text =>
    rw [inboundFileDisplayName]
    cases refused : refusedName text with
    | true => exact ⟨_, rfl⟩
    | false =>
      have encodable := safe text rfl refused
      rw [if_neg (by simp)]
      exact truncateUtf8Filename_ok (resolver.encodable_displayChars.mpr encodable) _
  | null => exact ⟨_, rfl⟩
  | bool value => exact ⟨_, rfl⟩
  | int value => exact ⟨_, rfl⟩
  | float text => exact ⟨_, rfl⟩
  | arr items => exact ⟨_, rfl⟩
  | obj members => exact ⟨_, rfl⟩

theorem inboundFileDisplayName_error {name : Json} (unsafeName : ¬ SafeName name) :
    resolver.inboundFileDisplayName name = .error .unicodeEncodeError := by
  simp only [SafeName, not_forall] at unsafeName
  obtain ⟨text, rfl, kept, lone⟩ := unsafeName
  rw [inboundFileDisplayName, kept, if_neg (by simp)]
  exact truncateUtf8Filename_error (mt resolver.encodable_displayChars.mp lone) _

/-- A key that a dictionary takes. -/
def hashable : Json → Bool
  | .arr _ | .obj _ => false
  | _ => true

def mediaLabels : List (MessageType × String) :=
  [(.Image, "[图片]"), (.GIF, "[GIF]"), (.Voice, "[语音消息]"), (.Video, "[视频]")]

/-- `_render_url_free_media_placeholder` -/
def renderUrlFreeMediaPlaceholder (msgType name : Json) : Except Fault (Option PyStr) :=
  if MessageType.File.equals msgType then
    (resolver.inboundFileDisplayName name).map fun shown => some (py "[文件: " ++ shown ++ py "]")
  else if hashable msgType then
    .ok ((mediaLabels.find? fun label => label.1.equals msgType).map fun label => py label.2)
  else .error .typeError

private theorem hashable_of_equals {type : MessageType} {value : Json}
    (same : type.equals value = true) :
    hashable value = true := by
  cases value with
  | arr items => cases same
  | obj members => cases same
  | null => rfl
  | bool value => rfl
  | int value => rfl
  | float text => rfl
  | str text => rfl

/-- A type and a name for which there is a label, or none is needed. -/
structure Labelled (msgType name : Json) : Prop where
  hashable : Resolver.hashable msgType = true
  file : MessageType.File.equals msgType = true → SafeName name

theorem renderUrlFreeMediaPlaceholder_ok {msgType name : Json} (labelled : Labelled msgType name) :
    ∃ label, resolver.renderUrlFreeMediaPlaceholder msgType name = .ok label := by
  rw [renderUrlFreeMediaPlaceholder]
  split_ifs with file keyed
  · obtain ⟨shown, ran⟩ := resolver.inboundFileDisplayName_ok (labelled.file file)
    rw [ran]
    exact ⟨_, rfl⟩
  · exact ⟨_, rfl⟩
  · exact absurd labelled.hashable keyed

theorem renderUrlFreeMediaPlaceholder_error {msgType name : Json}
    (unlabelled : ¬ Labelled msgType name) :
    ∃ fault, fault.IsCaught ∧
      resolver.renderUrlFreeMediaPlaceholder msgType name = .error fault := by
  rw [renderUrlFreeMediaPlaceholder]
  split_ifs with file keyed
  · have unsafeName : ¬ SafeName name := fun safe =>
      unlabelled ⟨hashable_of_equals file, fun _ => safe⟩
    rw [resolver.inboundFileDisplayName_error unsafeName]
    exact ⟨.unicodeEncodeError, trivial, rfl⟩
  · exact absurd ⟨keyed, fun same => absurd same file⟩ unlabelled
  · exact ⟨.typeError, trivial, rfl⟩

/-- `value.strip() if isinstance(value, str) else ""` -/
def stripped : Json → PyStr
  | .str text => strip text
  | _ => []

/-- A coordinate: a text that is not blank, or a number. -/
def coordinate (value : Json) : Option PyStr :=
  match value with
  | .str text => if strip text = [] then none else some (strip text)
  | .int _ | .float _ => some (resolver.str value)
  | _ => none

/-- `_format_location_text` -/
def formatLocationText (data : Members) : PyStr :=
  let address := stripped (Json.field (py "address") data)
  let coordinates := [py "latitude", py "longitude"].filterMap fun key =>
    resolver.coordinate (Json.field key data)
  let shown := (py ", ").intercalate coordinates
  if address ≠ [] ∧ coordinates ≠ [] then py "[位置信息: " ++ address ++ py " (" ++ shown ++ py ")]"
  else if address ≠ [] then py "[位置信息: " ++ address ++ py "]"
  else if coordinates ≠ [] then py "[位置信息: " ++ shown ++ py "]"
  else py "[位置信息]"

/-- `_format_card_text` -/
def formatCardText (data : Members) (fallback : PyStr) : PyStr :=
  let name := stripped (Json.field (py "name") data)
  let uid := stripped (Json.field (py "uid") data)
  if name ≠ [] ∧ uid ≠ [] then py "[名片: " ++ name ++ py " (" ++ uid ++ py ")]"
  else if name ≠ [] then py "[名片: " ++ name ++ py "]"
  else if uid ≠ [] then py "[名片: " ++ uid ++ py "]"
  else fallback

def richTextImagePlaceholder : PyStr := py "[图片]"

/-- `text[len(mark):]` of a text that starts with the mark. -/
def afterMark (mark text : PyStr) : Option PyStr :=
  if mark.isPrefixOf text then some (text.drop mark.length) else none

/-- `_build_media_url` of a path that is not empty. -/
def buildMediaUrl (path : PyStr) : PyStr :=
  if (py "http").isPrefixOf path then path
  else
    let rest := ((afterMark (py "file/preview/") path).or (afterMark (py "file/") path)).getD path
    if resolver.cdnUrl ≠ [] then resolver.cdnUrl.rdropWhile (· = ch '/') ++ py "/" ++ rest
    else resolver.apiUrl.rdropWhile (· = ch '/') ++ py "/file/" ++ rest

/-- `value == text` -/
def equalsText (text : PyStr) : Json → Bool
  | .str other => other = text
  | _ => false

def blockText (block : Members) : PyStr :=
  if equalsText (py "image") (Json.field (py "type") block) then richTextImagePlaceholder
  else (asText (Json.field (py "text") block)).getD []

/-- `_build_rich_text_plain`; an empty text adds nothing, whatever the type of its block. -/
def buildRichTextPlain (blocks : List Members) : PyStr := blocks.flatMap blockText

def imageUrl (block : Members) : Option PyStr :=
  if equalsText (py "image") (Json.field (py "type") block) then
    ((asText (Json.field (py "url") block)).filter fun url => !url.isEmpty).map
      resolver.buildMediaUrl
  else none

/-- The text and the images, once the plain text and the blocks are known. -/
def richText (topPlain : Option PyStr) (blocks : List Members) : PyStr × List PyStr :=
  (match topPlain with
    | some plain => if strip plain = [] then buildRichTextPlain blocks else plain
    | none => buildRichTextPlain blocks,
    blocks.filterMap resolver.imageUrl)

def textBlock (text : PyStr) : Members := [(py "type", .str (py "text")), (py "text", .str text)]

/-- `_resolve_rich_text_content` of a parsed payload. -/
def richTextOfPayload (payload : MessagePayload) : PyStr × List PyStr :=
  let blocks :=
    match payload.blocks, payload.content with
    | some blocks, _ => blocks
    | none, some (point :: rest) => [textBlock (point :: rest)]
    | none, _ => []
  resolver.richText payload.plain blocks

/-- `_resolve_rich_text_content` of an object inside a forward. -/
def richTextOfMembers (payload : Members) : PyStr × List PyStr :=
  let blocks :=
    match Json.field (py "content") payload with
    | .arr items => items.filterMap asMembers
    | .str (point :: rest) => [textBlock (point :: rest)]
    | _ => []
  resolver.richText (asText (Json.field (py "plain") payload)) blocks

end Resolver

end OctoChannel.Inbound

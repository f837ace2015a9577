import OctoChannel.Foundation.ByteSizes
import OctoChannel.Rendering.Reasoning

namespace OctoChannel.Rendering

open Foundation Identity Cards

/-- A line that starts with a visible character. -/
def Visible (line : PyStr) : Prop :=
  ∃ point rest, line = point :: rest ∧ point.isWhitespace = false

private theorem normalizeSpace_ne_nil {line : PyStr} (visible : Visible line) :
    normalizeSpace line ≠ [] := by
  obtain ⟨point, rest, rfl, shown⟩ := visible
  rw [normalizeSpace, collapseSpace, if_neg (by simp [shown])]
  exact strip_ne_nil shown _

/-- A visible line that passes is normalized, and can be encoded. -/
theorem sanitizeVisibleText_ok {line : PyStr} {clean : Option PyStr} (visible : Visible line)
    (ran : sanitizeVisibleText line = .ok clean) :
    clean = some (normalizeSpace line) ∧ Foundation.Encodable line := by
  rw [sanitizeVisibleText] at ran
  cases encoded : utf8Encode line with
  | none => simp [encoded] at ran
  | some bytes =>
    have encodable := (utf8Encode_isSome_iff line).mp (by rw [encoded]; rfl)
    simp only [encoded] at ran
    split_ifs at ran with large empty
    · exact absurd empty (normalizeSpace_ne_nil visible)
    · cases ran
      exact ⟨rfl, encodable⟩

def flatLine (line : PyStr) (spacing : Option String) : Json :=
  .obj (textElement (normalizeSpace line) (plainStyle spacing))

/-- The first line stands apart from the title. -/
def flatLines : List PyStr → List Json
  | [] => []
  | line :: rest => flatLine line (some "Medium") :: rest.map fun line => flatLine line none

def flatTitle (header : PyStr) : Json :=
  .obj (textElement (normalizeSpace header) ⟨true, some "Large", false, none⟩)

def flatCard (header : PyStr) (lines : List PyStr) : List (PyStr × Json) :=
  adaptiveCard (flatTitle header :: flatLines lines)

private theorem readBlock_textBlock (urls : CardUrls) (capabilities : Option CardCapabilities)
    (line : PyStr) :
    readBlock urls capabilities (textBlock line) = (sanitizeVisibleText line).map .text := rfl

section Blocks

variable {urls : CardUrls} {capabilities : Option CardCapabilities}

theorem showLine_ok {line : PyStr} (visible : Visible line) {read : DisplayBlock}
    {state next : DisplayState} (ranRead : readBlock urls capabilities (textBlock line) = .ok read)
    (ran : showBlock capabilities read state = .ok next) :
    ShowsText capabilities ∧ Foundation.Encodable line ∧ next.previous = .text ∧
      next.body = state.body ++ [flatLine line (displayTextSpacing state.previous)] := by
  rw [readBlock_textBlock] at ranRead
  obtain ⟨clean, sanitized, rfl⟩ := ok_of_map ranRead
  obtain ⟨rfl, encodable⟩ := sanitizeVisibleText_ok visible sanitized
  obtain ⟨_, required, rfl⟩ := ok_of_map ran
  exact ⟨requireElement_ok required, encodable, rfl, rfl⟩

/-- Lines after a line follow without spacing. -/
private theorem showLines_ok {lines : List PyStr} (visible : ∀ line ∈ lines, Visible line)
    {state final : DisplayState} (after : displayTextSpacing state.previous = none)
    (ran : showBlocks urls capabilities (lines.map textBlock) state = .ok final) :
    (∀ line ∈ lines, Foundation.Encodable line) ∧
      final.body = state.body ++ lines.map fun line => flatLine line none := by
  induction lines generalizing state with
  | nil =>
    cases ran
    simp
  | cons line rest ih =>
    rw [List.forall_mem_cons] at visible
    rw [List.map_cons] at ran
    cases read : readBlock urls capabilities (textBlock line) with
    | error error => simp [showBlocks, read] at ran
    | ok content =>
      cases shown : showBlock capabilities content state with
      | error error => simp [showBlocks, read, shown] at ran
      | ok next =>
        simp only [showBlocks, read, shown] at ran
        obtain ⟨_, encodable, previous, body⟩ := showLine_ok visible.1 read shown
        have spacing : displayTextSpacing next.previous = none := by
          rw [previous]
          rfl
        obtain ⟨others, bodies⟩ := ih visible.2 spacing ran
        refine ⟨List.forall_mem_cons.mpr ⟨encodable, others⟩, ?_⟩
        rw [bodies, body, after, List.append_assoc]
        rfl

private theorem showFlatLines_ok {lines : List PyStr} (visible : ∀ line ∈ lines, Visible line)
    {state final : DisplayState} (after : displayTextSpacing state.previous = some "Medium")
    (ran : showBlocks urls capabilities (lines.map textBlock) state = .ok final) :
    (∀ line ∈ lines, Foundation.Encodable line) ∧ final.body = state.body ++ flatLines lines := by
  cases lines with
  | nil =>
    cases ran
    simp [flatLines]
  | cons line rest =>
    rw [List.forall_mem_cons] at visible
    rw [List.map_cons] at ran
    cases read : readBlock urls capabilities (textBlock line) with
    | error error => simp [showBlocks, read] at ran
    | ok content =>
      cases shown : showBlock capabilities content state with
      | error error => simp [showBlocks, read, shown] at ran
      | ok next =>
        simp only [showBlocks, read, shown] at ran
        obtain ⟨_, encodable, previous, body⟩ := showLine_ok visible.1 read shown
        have spacing : displayTextSpacing next.previous = none := by
          rw [previous]
          rfl
        obtain ⟨others, bodies⟩ := showLines_ok visible.2 spacing ran
        refine ⟨List.forall_mem_cons.mpr ⟨encodable, others⟩, ?_⟩
        rw [bodies, body, after, List.append_assoc]
        rfl

/-- The card of a title and lines that are all visible. -/
theorem displayLines_ok {header : PyStr} {lines : List PyStr} (titled : Visible header)
    (visible : ∀ line ∈ lines, Visible line) {flat : CardRenderResult}
    (built : buildDisplayCard urls (lines.map textBlock) (.str header) capabilities = .ok flat) :
    ShowsText capabilities ∧ flat.card = flatCard header lines ∧
      ∀ line ∈ header :: lines, Foundation.Encodable line := by
  obtain ⟨start, state, ranTitle, ran, rfl, _⟩ := buildDisplayCard_ok built
  rw [showTitle] at ranTitle
  obtain ⟨clean, sanitized, ranTitle⟩ := ok_of_bind ranTitle
  obtain ⟨rfl, encodable⟩ := sanitizeVisibleText_ok titled sanitized
  obtain ⟨_, required, rfl⟩ := ok_of_map ranTitle
  obtain ⟨others, bodies⟩ := showFlatLines_ok visible rfl ran
  refine ⟨requireElement_ok required, ?_, List.forall_mem_cons.mpr ⟨encodable, others⟩⟩
  rw [bodies]
  rfl

end Blocks

/-- The bytes of a character in the payload, with the replacements of `_go_json_bytes`. -/
def goWeight (point : CodePoint) : Nat := weigh pointBytes (goEscape point)

def goBytes (text : PyStr) : Nat := weigh goWeight text

/-- The bytes of a text inside a string of the payload. -/
def stringBytes (text : PyStr) : Nat := goBytes (text.flatMap Json.escapeChar)

@[simp] theorem goBytes_append (first second : PyStr) :
    goBytes (first ++ second) = goBytes first + goBytes second := weigh_append _ first second

@[simp] theorem goBytes_cons (point : CodePoint) (rest : PyStr) :
    goBytes (point :: rest) = goWeight point + goBytes rest := rfl

@[simp] theorem goBytes_nil : goBytes [] = 0 := rfl

/-- A line of the card, over the bytes of its block without text. -/
def lineBytes (frame : Nat) (line : PyStr) : Nat :=
  frame + stringBytes (literalCardText (normalizeSpace line))

def emptyCardBytes : Nat := goBytes (cardPayload (adaptiveCard []) [] cardProfileV1).print

def titleFrame : Nat :=
  goBytes (Json.obj (textElement [] ⟨true, some "Large", false, none⟩)).print

def lineFrame : Nat := 1 + goBytes (Json.obj (textElement [] (plainStyle none))).print

/-- The bytes by which the first line is set off. -/
def spacingBytes (lines : List PyStr) : Nat :=
  if lines = [] then 0 else goBytes (py ",\"spacing\":\"Medium\"")

/-- The payload of a title and lines that also are the plain text, as they are. -/
def flatBytes (header : PyStr) (lines : List PyStr) : Nat :=
  emptyCardBytes + lineBytes titleFrame header + (lines.map (lineBytes lineFrame)).sum +
    spacingBytes lines + stringBytes (joined (py "\n") (header :: lines))

theorem goBytes_printStr (text : PyStr) :
    goBytes (Json.printStr text) = goBytes (Json.printStr []) + stringBytes text := by
  simp only [Json.printStr, stringBytes, List.cons_append, List.nil_append, goBytes_append,
    goBytes_cons, goBytes_nil, List.flatMap_nil]
  omega

/-- The plain text and the card add their bytes to those of an empty payload. -/
theorem goBytes_cardPayload (card : List (PyStr × Json)) (plain profile : PyStr) :
    goBytes (cardPayload card plain profile).print + goBytes (Json.obj []).print =
      goBytes (cardPayload [] [] profile).print + goBytes (Json.obj card).print +
        stringBytes plain := by
  have texts := goBytes_printStr plain
  simp only [cardPayload, Json.print, Json.printMembers, List.cons_append, goBytes_append,
    goBytes_cons, goBytes_nil, texts]
  omega

private theorem goBytes_printItems (items : List Json) :
    goBytes (Json.printItems items) =
      goWeight (ch ']') + (items.map fun item => goWeight (ch ',') + goBytes item.print).sum := by
  induction items with
  | nil => simp [Json.printItems]
  | cons item rest ih =>
    simp only [Json.printItems, List.cons_append, goBytes_cons, goBytes_append, ih, List.map_cons,
      List.sum_cons]
    omega

/-- The items of the body add their bytes, all but the first with a comma. -/
private theorem goBytes_adaptiveCard (first : Json) (rest : List Json) :
    goBytes (Json.obj (adaptiveCard (first :: rest))).print =
      goBytes (Json.obj (adaptiveCard [])).print + goBytes first.print +
        (rest.map fun item => goWeight (ch ',') + goBytes item.print).sum := by
  have empty : goBytes (py "[]") = goWeight (ch '[') + goWeight (ch ']') := rfl
  simp only [adaptiveCard, Json.print, Json.printMembers, List.cons_append, goBytes_append,
    goBytes_cons, goBytes_nil, goBytes_printItems, empty]
  omega

theorem goBytes_textElement (text : PyStr) (style : TextStyle) :
    goBytes (Json.obj (textElement text style)).print =
      goBytes (Json.obj (textElement [] style)).print + stringBytes (literalCardText text) := by
  have texts := goBytes_printStr (literalCardText text)
  have none : literalCardText [] = [] := rfl
  simp only [textElement, none, List.cons_append, Json.print, Json.printMembers, goBytes_append,
    goBytes_cons, texts]
  omega

private theorem flatCard_bytes (header : PyStr) (lines : List PyStr) :
    goBytes (cardPayload (flatCard header lines) (joined (py "\n") (header :: lines))
      cardProfileV1).print = flatBytes header lines := by
  have comma : goWeight (ch ',') = 1 := by decide
  have spaced : goBytes (Json.obj (textElement [] (plainStyle (some "Medium")))).print =
      goBytes (Json.obj (textElement [] (plainStyle none))).print +
        goBytes (py ",\"spacing\":\"Medium\"") := by decide +kernel
  have whole := goBytes_cardPayload (flatCard header lines) (joined (py "\n") (header :: lines))
    cardProfileV1
  have bare := goBytes_cardPayload (adaptiveCard []) [] cardProfileV1
  have body := goBytes_adaptiveCard (flatTitle header) (flatLines lines)
  have title := goBytes_textElement (normalizeSpace header) ⟨true, some "Large", false, none⟩
  have nothing : stringBytes [] = 0 := rfl
  have rest : ((flatLines lines).map fun item => goWeight (ch ',') + goBytes item.print).sum =
      (lines.map (lineBytes lineFrame)).sum + spacingBytes lines := by
    have plainLine : (fun line => goWeight (ch ',') + goBytes (flatLine line none).print) =
        lineBytes lineFrame := by
      funext line
      rw [flatLine, goBytes_textElement, comma, lineBytes, lineFrame]
      omega
    cases lines with
    | nil => rfl
    | cons line others =>
      have first : goWeight (ch ',') + goBytes (flatLine line (some "Medium")).print =
          lineBytes lineFrame line + goBytes (py ",\"spacing\":\"Medium\"") := by
        rw [flatLine, goBytes_textElement, spaced, comma, lineBytes, lineFrame]
        omega
      simp only [flatLines, List.map_cons, List.map_map, List.sum_cons, Function.comp_def,
        plainLine, spacingBytes, List.cons_ne_nil, if_false, first]
      omega
  rw [flatCard] at whole ⊢
  rw [flatTitle] at body
  rw [flatTitle] at whole ⊢
  rw [flatBytes, emptyCardBytes, lineBytes, titleFrame]
  omega

/-- The plain text of a payload may be exchanged for one that can be encoded. -/
private theorem scalar_cardPayload {card : List (PyStr × Json)} {plain other profile : PyStr}
    (scalar : Json.Scalar (cardPayload card plain profile))
    (encodable : Foundation.Encodable other) : Json.Scalar (cardPayload card other profile) := by
  cases scalar with
  | obj keys each =>
    simp only [List.forall_mem_cons, List.not_mem_nil, false_implies, implies_true,
      and_true] at keys each
    refine .obj ?_ ?_
    · simpa only [List.forall_mem_cons, List.not_mem_nil, false_implies, implies_true,
        and_true] using keys
    · simp only [List.forall_mem_cons, List.not_mem_nil, false_implies, implies_true, and_true]
      exact ⟨each.1, each.2.1, each.2.2.1, each.2.2.2.1, .str encodable⟩

/-- A flat card that keeps the limits with one plain text keeps them with its lines exactly when
their payload is within the limit. -/
theorem flatLimits_iff {capabilities : Option CardCapabilities} {header clean : PyStr}
    {lines : List PyStr} (encodable : ∀ line ∈ header :: lines, Foundation.Encodable line)
    (within : WithinLimits (flatCard header lines) clean capabilities cardProfileV1) :
    WithinLimits (flatCard header lines) (joined (py "\n") (header :: lines)) capabilities
        cardProfileV1 ↔
      (flatBytes header lines : Int) ≤
        limitOf capabilities CardCapabilities.maxPayloadBytes defaultMaxCardPayloadBytes := by
  obtain ⟨bytes, passed, _⟩ := within.payload
  have plain := encodable_joined (encodable_py "\n") encodable
  obtain ⟨others, encoded⟩ :=
    goJsonBytes_of_scalar (scalar_cardPayload (scalar_of_goJsonBytes passed) plain)
  have size : others.length = flatBytes header lines := by
    rw [goJsonBytes] at encoded
    rw [length_utf8Encode encoded, weigh_flatMap]
    exact flatCard_bytes header lines
  constructor
  · intro keeps
    obtain ⟨given, same, small⟩ := keeps.payload
    rw [Option.some.inj (encoded.symm.trans same)] at size
    rwa [← size]
  · intro small
    refine ⟨within.nodes, within.depth, others, encoded, ?_⟩
    rwa [size]

end OctoChannel.Rendering

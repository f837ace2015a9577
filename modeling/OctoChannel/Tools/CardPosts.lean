import OctoChannel.Rendering.Advertised
import OctoChannel.Rendering.Submitting
import OctoChannel.Tools.CardSending

namespace OctoChannel.Tools

open Foundation Identity Cards Chats Rendering Adapter.Replies Progress

section Limits

variable {world : CardWorld} {manifest : CardProfileManifest} {capabilities : CardCapabilities}

private theorem positiveLimit_le {ceiling : Int} {value : Json} {limit : Int}
    (derived : positiveLimit world ceiling value = some (some limit)) : limit ≤ ceiling := by
  cases value with
  | int value =>
    unfold positiveLimit at derived
    dsimp only at derived
    split_ifs at derived
    · cases derived
    · cases derived
      exact Int.min_le_right _ _
  | float text =>
    unfold positiveLimit at derived
    dsimp only at derived
    cases known : world.floatValue text with
    | none => simp [known] at derived
    | some value =>
      rw [known] at derived
      simp only [Option.bind_some, Option.some.injEq] at derived
      split_ifs at derived
      cases derived
      exact Int.min_le_right _ _
  | _ => cases derived

/-- The limits that a server may give are no larger than the own ones. -/
structure Stricter (capabilities : CardCapabilities) : Prop where
  maxNodes : limitOf (some capabilities) CardCapabilities.maxNodes defaultMaxCardNodes ≤
    defaultMaxCardNodes
  maxDepth : limitOf (some capabilities) CardCapabilities.maxDepth defaultMaxCardDepth ≤
    defaultMaxCardDepth
  maxPayloadBytes : limitOf (some capabilities) CardCapabilities.maxPayloadBytes
    defaultMaxCardPayloadBytes ≤ defaultMaxCardPayloadBytes

theorem getD_positiveLimit_le {ceiling : Int} {value : Json} {limit : Option Int}
    (derived : positiveLimit world ceiling value = some limit) :
    limit.getD ceiling ≤ ceiling := by
  cases limit with
  | none => exact Int.le_refl _
  | some limit => exact positiveLimit_le derived

theorem deriveCardCapabilities_stricter
    (derived : deriveCardCapabilities world manifest = some capabilities) :
    Stricter capabilities := by
  unfold deriveCardCapabilities at derived
  obtain ⟨maxNodes, nodes, derived⟩ := Option.bind_eq_some_iff.mp derived
  obtain ⟨maxDepth, depth, derived⟩ := Option.bind_eq_some_iff.mp derived
  obtain ⟨maxPayloadBytes, payload, derived⟩ := Option.bind_eq_some_iff.mp derived
  obtain ⟨maxInputTextBytes, -, derived⟩ := Option.bind_eq_some_iff.mp derived
  obtain ⟨maxInputsBytes, -, derived⟩ := Option.bind_eq_some_iff.mp derived
  cases derived
  exact ⟨getD_positiveLimit_le nodes, getD_positiveLimit_le depth, getD_positiveLimit_le payload⟩

variable {card : Members} {plain profile : PyStr}

theorem Stricter.within (stricter : Stricter capabilities)
    (within : WithinLimits card plain (some capabilities) profile) :
    WithinLimits card plain none profile := by
  obtain ⟨bytes, encoded, size⟩ := within.payload
  exact {
    nodes := Int.le_trans within.nodes stricter.maxNodes
    depth := Int.le_trans within.depth stricter.maxDepth
    payload := ⟨bytes, encoded, Int.le_trans size stricter.maxPayloadBytes⟩ }

theorem resolveCardProfile_v2 (card : Members) :
    resolveCardProfile card cardProfileV2 = cardProfileV2 := by
  unfold resolveCardProfile
  split_ifs <;> rfl

/-- A card within the limits of the server is posted as it is. -/
theorem cardPost_of_within {route : TrustedOctoRoute} (stricter : Stricter capabilities)
    (resolved : resolveCardProfile card profile = profile)
    (within : WithinLimits card plain (some capabilities) profile) :
    cardPost world route card plain profile =
      some ⟨route.channelId, route.channelType, card, plain, profile, world.replies.uuid4 1⟩ := by
  unfold cardPost
  dsimp only
  rw [resolved, validateCardLimits_ok.mpr (stricter.within within)]

end Limits

section Inert

variable {capabilities : Option CardCapabilities}

/-- Nothing inside can be pressed or filled in. -/
def Inert (value : Json) : Prop := containsInteraction value = false

theorem inert_arr {items : List Json} : Inert (.arr items) ↔ ∀ item ∈ items, Inert item := by
  rw [Inert, containsInteraction]
  induction items with
  | nil => simp [anyInteraction]
  | cons item rest ih =>
    rw [anyInteraction, Bool.or_eq_false_iff, ih, List.forall_mem_cons]
    rfl

theorem anyMember_eq_false_iff {members : Members} :
    anyMember members = false ↔ ∀ member ∈ members, Inert member.2 := by
  induction members with
  | nil => simp [anyMember]
  | cons member rest ih =>
    rw [anyMember, Bool.or_eq_false_iff, ih, List.forall_mem_cons]
    rfl

/-- The types of inputs and buttons. -/
def isPressable (name : PyStr) : Bool :=
  (py "Input.").isPrefixOf name || name = py "Action.Submit"

theorem inert_typed {name : PyStr} {members : Members} (passive : isPressable name = false) :
    Inert (.obj ((py "type", .str name) :: members)) ↔ ∀ member ∈ members, Inert member.2 := by
  have typed : Json.field (py "type") ((py "type", .str name) :: members) = .str name :=
    field_head _ _ _
  rw [Inert, containsInteraction, typed, Bool.or_eq_false_iff, anyMember_eq_false_iff,
    List.forall_mem_cons]
  constructor
  · intro every
    exact every.2.2
  · intro every
    exact ⟨passive, rfl, every⟩

@[simp] theorem inert_str (text : PyStr) : Inert (.str text) := rfl

@[simp] theorem inert_bool (value : Bool) : Inert (.bool value) := rfl

theorem inert_optionalText (key : String) (value : Option String) :
    ∀ member ∈ optionalMember key (value.map fun text => .str (py text)), Inert member.2 := by
  cases value with
  | none => simp [optionalMember]
  | some text => simp [optionalMember]

theorem inert_textElement (text : PyStr) (style : TextStyle) :
    Inert (.obj (textElement text style)) := by
  simp only [textElement, List.cons_append, List.nil_append]
  apply (inert_typed (by decide)).mpr
  simp only [List.forall_mem_cons, List.forall_mem_append, inert_str, inert_bool, true_and]
  refine ⟨⟨⟨?_, inert_optionalText _ _⟩, ?_⟩, inert_optionalText _ _⟩
  · split <;> simp
  · split <;> simp

private theorem inert_factSet (facts : List (PyStr × PyStr)) : Inert
    (.obj (factSetElement facts)) := by
  apply (inert_typed (by decide)).mpr
  rw [List.forall_mem_singleton, inert_arr]
  intro item member
  obtain ⟨fact, -, rfl⟩ := List.mem_map.mp member
  rfl

private theorem inert_image (url alt : PyStr) : Inert (.obj (imageElement url alt)) :=
  (inert_typed (by decide)).mpr (by simp)

private theorem inert_linkSet (links : List (PyStr × PyStr)) : Inert
    (.obj (linkSetElement links)) := by
  apply (inert_typed (by decide)).mpr
  rw [List.forall_mem_singleton, inert_arr]
  intro item member
  obtain ⟨link, -, rfl⟩ := List.mem_map.mp member
  exact (inert_typed (by decide)).mpr (by simp)

private theorem inert_partElements (parts : List (Bool × PyStr)) :
    ∀ element ∈ partElements parts, Inert (.obj element) := by
  have each : ∀ first part, Inert (.obj (partElement first part)) := by
    intro first part
    rw [partElement]
    split
    · exact inert_textElement _ _
    · exact inert_textElement _ _
  cases parts with
  | nil => simp [partElements]
  | cons part rest =>
    rw [partElements, List.forall_mem_cons, List.forall_mem_map]
    exact ⟨each true part, fun other _ => each false other⟩

theorem inert_grouped {name : PyStr} {rest : Members} (passive : isPressable name = false)
    (inside : Inert (.obj ((py "type", .str name) :: rest))) (spacing : Option String) :
    Inert (.obj (grouped ((py "type", .str name) :: rest) spacing)) := by
  rw [inert_typed passive] at inside
  rw [grouped, List.cons_append]
  apply (inert_typed passive).mpr
  rw [List.forall_mem_append]
  exact ⟨inside, inert_optionalText _ _⟩

/-- What has been shown so far cannot be pressed. -/
def StateInert (state : DisplayState) : Prop := ∀ item ∈ state.body, Inert item

theorem StateInert.append {state : DisplayState} (before : StateInert state)
    {elements : List Members} (added : ∀ element ∈ elements, Inert (.obj element))
    (lines : List PyStr) (previous : Preceding) :
    StateInert (state.append elements lines previous) := by
  unfold StateInert DisplayState.append
  rw [List.forall_mem_append, List.forall_mem_map]
  exact ⟨before, added⟩

theorem richOrLines_inert {advertised : Bool} {name : PyStr} {rest : Members}
    {lines : List PyStr} {state next : DisplayState} (passive : isPressable name = false)
    (rich : Inert (.obj ((py "type", .str name) :: rest))) (before : StateInert state)
    (ran : richOrLines capabilities advertised ((py "type", .str name) :: rest) lines state =
      .ok next) : StateInert next := by
  cases advertised with
  | true =>
    cases ran
    apply before.append
    rw [List.forall_mem_singleton]
    exact inert_grouped passive rich _
  | false =>
    obtain ⟨_, -, rfl⟩ := ok_of_map ran
    apply before.append
    rw [List.forall_mem_map]
    exact fun line _ => inert_textElement line _

private theorem showBlock_inert {block : DisplayBlock} {state next : DisplayState}
    (before : StateInert state) (ran : showBlock capabilities block state = .ok next) :
    StateInert next := by
  have line : ∀ text style, ∀ element ∈ [textElement text style], Inert (.obj element) :=
    fun text style => List.forall_mem_singleton.mpr (inert_textElement text style)
  cases block with
  | heading text | text text =>
    cases text with
    | none =>
      cases ran
      exact before
    | some text =>
      obtain ⟨_, -, rfl⟩ := ok_of_map ran
      exact before.append (line text _) _ _
  | parts parts =>
    cases parts with
    | nil =>
      cases ran
      exact before
    | cons part rest =>
      have elements := inert_partElements (part :: rest)
      cases ran
      apply before.append
      split
      · rw [List.forall_mem_singleton]
        apply inert_grouped (by decide)
        apply (inert_typed (by decide)).mpr
        rw [List.forall_mem_singleton, inert_arr, List.forall_mem_map]
        exact elements
      · exact elements
  | facts facts =>
    cases facts with
    | nil =>
      cases ran
      exact before
    | cons fact rest => exact richOrLines_inert (by decide) (inert_factSet _) before ran
  | image image =>
    cases image with
    | none =>
      cases ran
      exact before
    | some image => exact richOrLines_inert (by decide) (inert_image _ _) before ran
  | links links =>
    cases links with
    | nil =>
      cases ran
      exact before
    | cons link rest => exact richOrLines_inert (by decide) (inert_linkSet _) before ran

private theorem showBlocks_inert {urls : CardUrls} {blocks : List Json} {state final : DisplayState}
    (before : StateInert state) (ran : showBlocks urls capabilities blocks state = .ok final) :
    StateInert final := by
  induction blocks generalizing state with
  | nil =>
    cases ran
    exact before
  | cons block rest ih =>
    cases read : readBlock urls capabilities block with
    | error error => simp [showBlocks, read] at ran
    | ok content =>
      cases shown : showBlock capabilities content state with
      | error error => simp [showBlocks, read, shown] at ran
      | ok next =>
        simp only [showBlocks, read, shown] at ran
        exact ih (showBlock_inert before shown) ran

private theorem showTitle_inert {title : Json} {start : DisplayState}
    (ran : showTitle capabilities title = .ok start) : StateInert start := by
  have empty : ∀ previous, StateInert ⟨[], [], previous⟩ := fun previous item member => by
    cases member
  cases title with
  | null =>
    cases ran
    exact empty _
  | str title =>
    obtain ⟨clean, -, ran⟩ := ok_of_bind ran
    cases clean with
    | none =>
      cases ran
      exact empty _
    | some clean =>
      obtain ⟨_, -, rfl⟩ := ok_of_map ran
      exact List.forall_mem_singleton.mpr (inert_textElement clean _)
  | _ => cases ran

/-- Nothing on a display card can be pressed. -/
theorem displayCard_inert {urls : CardUrls} {blocks : List Json} {title : Json}
    {rendered : CardRenderResult}
    (built : buildDisplayCard urls blocks title capabilities = .ok rendered) :
    Inert (.obj rendered.card) := by
  obtain ⟨start, state, titled, ran, rfl, -⟩ := buildDisplayCard_ok built
  have body := showBlocks_inert (showTitle_inert titled) ran
  have inside : Inert (.arr state.body) := inert_arr.mpr body
  have typed : Json.field (py "type") (adaptiveCard state.body) = .str (py "AdaptiveCard") := rfl
  rw [Inert, containsInteraction, typed, Bool.or_eq_false_iff, anyMember_eq_false_iff]
  refine ⟨by decide, ?_⟩
  simp only [adaptiveCard, List.forall_mem_cons, inert_str, inside, true_and, List.not_mem_nil,
    false_implies, implies_true]

theorem resolveCardProfile_inert {card : Members} (inert : Inert (.obj card))
    (requested : PyStr) : resolveCardProfile card requested = requested := by
  unfold resolveCardProfile
  rw [inert, if_neg Bool.false_ne_true]

end Inert

section Plain

/-- Two runs that share their first step. -/
theorem both_of_bind {Error Value Result : Type} {step : Except Error Value}
    {next other : Value → Except Error Result} {result again : Result}
    (ran : step >>= next = .ok result) (reran : step >>= other = .ok again) :
    ∃ value, next value = .ok result ∧ other value = .ok again := by
  cases step with
  | error error => cases ran
  | ok value => exact ⟨value, ran, reran⟩

variable {first second : Option CardCapabilities} {textInputs others : Nat} {used : List PyStr}

/-- What the plain text shows of an input does not depend on the capabilities. -/
private theorem readInput_same {raw : Json} {form other : InputForm}
    (read : readInput first textInputs used raw = .ok form)
    (again : readInput second others used raw = .ok other) :
    form.id = other.id ∧ form.line = other.line := by
  cases raw with
  | obj input =>
    rw [readInput] at read again
    obtain ⟨id, read, again⟩ := both_of_bind read again
    obtain ⟨_, read, again⟩ := both_of_bind read again
    cases named : findKind (kindOf input) with
    | none => simp [named] at read
    | some entry =>
      obtain ⟨kind, inputType⟩ := entry
      simp only [named] at read again
      obtain ⟨_, -, read⟩ := ok_of_bind read
      obtain ⟨_, -, again⟩ := ok_of_bind again
      obtain ⟨label, read, again⟩ := both_of_bind read again
      by_cases choice : kind = .choice
      · simp only [choice, if_true] at read again
        obtain ⟨choices, read, again⟩ := both_of_bind read again
        cases read
        cases again
        exact ⟨rfl, rfl⟩
      · simp only [choice, if_false] at read again
        obtain ⟨placeholder, read, again⟩ := both_of_bind read again
        cases read
        cases again
        exact ⟨rfl, by simp [InputForm.line, choice]⟩
  | _ => cases read

private theorem readInputs_same {raw : List Json} {forms otherForms : List InputForm}
    (read : readInputs first textInputs used raw = .ok forms)
    (again : readInputs second others used raw = .ok otherForms) :
    forms.map InputForm.id = otherForms.map InputForm.id ∧
      forms.map InputForm.line = otherForms.map InputForm.line := by
  induction raw generalizing used forms otherForms with
  | nil =>
    cases read
    cases again
    exact ⟨rfl, rfl⟩
  | cons item rest ih =>
    cases head : readInput first textInputs used item with
    | error error => simp [readInputs, head] at read
    | ok form =>
      cases otherHead : readInput second others used item with
      | error error => simp [readInputs, otherHead] at again
      | ok other =>
        obtain ⟨id, line⟩ := readInput_same head otherHead
        simp only [readInputs, head, otherHead, id] at read again
        obtain ⟨later, ran, rfl⟩ := ok_of_map read
        obtain ⟨otherLater, otherRan, rfl⟩ := ok_of_map again
        obtain ⟨ids, lines⟩ := ih ran otherRan
        simp only [List.map_cons, id, line, ids, lines, and_self]

private theorem readCard_plain {args : InteractiveArgs} {form other : CardForm}
    (read : readCard args first = .ok form) (again : readCard args second = .ok other) :
    form.plain = other.plain := by
  rw [readCard] at read again
  obtain ⟨_, -, read⟩ := ok_of_bind read
  obtain ⟨_, -, again⟩ := ok_of_bind again
  obtain ⟨binding, read, again⟩ := both_of_bind read again
  obtain ⟨title, read, again⟩ := both_of_bind read again
  obtain ⟨_, -, read⟩ := ok_of_bind read
  obtain ⟨_, -, again⟩ := ok_of_bind again
  obtain ⟨_, -, read⟩ := ok_of_bind read
  obtain ⟨_, -, again⟩ := ok_of_bind again
  obtain ⟨_, read, again⟩ := both_of_bind read again
  obtain ⟨rawButtons, read, again⟩ := both_of_bind read again
  obtain ⟨_, read, again⟩ := both_of_bind read again
  obtain ⟨rawInputs, read, again⟩ := both_of_bind read again
  obtain ⟨_, read, again⟩ := both_of_bind read again
  obtain ⟨text, read, again⟩ := both_of_bind read again
  obtain ⟨inputs, ranInputs, read⟩ := ok_of_bind read
  obtain ⟨otherInputs, againInputs, again⟩ := ok_of_bind again
  obtain ⟨ids, lines⟩ := readInputs_same ranInputs againInputs
  rw [ids] at read
  obtain ⟨buttons, read, again⟩ := both_of_bind read again
  cases read
  cases again
  simp only [CardForm.plain, lines]

theorem buildInteractiveCard_ok {args : InteractiveArgs} {capabilities : Option CardCapabilities}
    {rendered : InteractiveCard} (built : buildInteractiveCard args capabilities = .ok rendered) :
    ∃ form, readCard args capabilities = .ok form ∧ rendered = resultOf form ∧
      validateCardLimits form.card form.plain capabilities cardProfileV2 = .ok () := by
  unfold buildInteractiveCard at built
  cases read : readCard args capabilities with
  | error error => simp [read] at built
  | ok form =>
    cases checked : validateCardLimits form.card form.plain capabilities cardProfileV2 with
    | error error => simp [read, checked] at built
    | ok passed =>
      simp only [read, checked, Except.ok.injEq] at built
      exact ⟨form, rfl, built.symm, checked⟩

/-- The plain text of a form does not depend on the capabilities. -/
theorem interactiveCard_plain {args : InteractiveArgs} {rendered other : InteractiveCard}
    (built : buildInteractiveCard args first = .ok rendered)
    (again : buildInteractiveCard args second = .ok other) : rendered.plain = other.plain := by
  obtain ⟨form, read, rfl, -⟩ := buildInteractiveCard_ok built
  obtain ⟨otherForm, otherRead, rfl, -⟩ := buildInteractiveCard_ok again
  exact readCard_plain read otherRead

end Plain

def unavailableHeading : Json :=
  .obj (textElement unavailableTitle ⟨true, some "Large", false, none⟩)

def unavailableBody : List Json :=
  [unavailableHeading, .obj (textElement unavailableText (plainStyle (some "Medium")))]

def unavailableBlock : Json :=
  .obj [(py "type", .str (py "text")), (py "text", .str unavailableText)]

def unavailablePlain : PyStr := joined (py "\n") [unavailableTitle, unavailableText]

theorem sanitize_unavailable :
    sanitizeVisibleText unavailableTitle = .ok (some unavailableTitle) ∧
      sanitizeVisibleText unavailableText = .ok (some unavailableText) := by decide +kernel

private theorem readBlock_unavailable (urls : CardUrls) :
    readBlock urls none unavailableBlock = .ok (.text (some unavailableText)) := by
  have text : blockText [(py "type", .str (py "text")), (py "text", .str unavailableText)] =
      .ok (some unavailableText) := sanitize_unavailable.2
  change (blockText [(py "type", .str (py "text")), (py "text", .str unavailableText)]).map
    DisplayBlock.text = _
  rw [text]
  rfl

private theorem showTitle_unavailable : showTitle none (.str unavailableTitle) =
    .ok ⟨[unavailableHeading], [unavailableTitle], .group⟩ := by
  simp only [showTitle, sanitize_unavailable.1]
  rfl

private theorem showBlocks_unavailable (urls : CardUrls) :
    showBlocks urls none [unavailableBlock] ⟨[unavailableHeading], [unavailableTitle], .group⟩ =
      .ok ⟨unavailableBody, [unavailableTitle, unavailableText], .text⟩ := by
  rw [showBlocks, readBlock_unavailable]
  rfl

private theorem within_unavailable :
    WithinLimits (adaptiveCard unavailableBody) unavailablePlain none cardProfileV1 := by
  apply validateCardLimits_ok.mp
  have passes : (validateCardLimits (adaptiveCard unavailableBody) unavailablePlain none
      cardProfileV1).isOk = true := by decide +kernel
  cases checked : validateCardLimits (adaptiveCard unavailableBody) unavailablePlain none
      cardProfileV1 with
  | error error =>
    rw [checked] at passes
    cases passes
  | ok passed => rfl

private theorem unavailableCard_eq (world : CardWorld) :
    unavailableCard world = .ok ⟨adaptiveCard unavailableBody, unavailablePlain⟩ := by
  have stripped : strip (joined (py "\n") [unavailableTitle, unavailableText]) =
      unavailablePlain := by decide +kernel
  have filled : ¬ (unavailableBody = [] ∨ unavailablePlain = []) := by
    rintro (empty | empty)
    · cases empty
    · exact absurd empty (by decide +kernel)
  have shown : unavailableCard world = buildDisplayCard world.urls [unavailableBlock]
      (.str unavailableTitle) none := rfl
  rw [shown]
  unfold buildDisplayCard
  rw [if_neg (by decide), if_neg (by decide), showTitle_unavailable]
  dsimp only
  rw [showBlocks_unavailable]
  dsimp only
  rw [stripped, if_neg filled, validateCardLimits_ok.mpr within_unavailable]

private theorem editAllowed_unavailable : editAllowed
    (adaptiveCard unavailableBody) unavailablePlain
    cardProfileV2 1 false = true := by decide +kernel

theorem retirement_eq (world : CardWorld) (route : TrustedOctoRoute) (messageId : PyStr) :
    retirement world route messageId =
      some ⟨route.channelId, route.channelType, messageId, adaptiveCard unavailableBody,
        unavailablePlain, cardProfileV2, 1, false⟩ := by
  unfold retirement
  rw [unavailableCard_eq]
  dsimp only
  rw [resolveCardProfile_v2, if_pos editAllowed_unavailable]

end OctoChannel.Tools

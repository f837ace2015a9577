import OctoChannel.Foundation.JsonEncodable
import OctoChannel.Foundation.JsonNodes
import OctoChannel.Rendering.Texts

namespace OctoChannel.Rendering

open Foundation Identity Cards

/-- A capability that is missing is not limited; `frozenset` as a list of names. -/
structure CardCapabilities where
  authoritative : Bool
  enabled : Bool
  elements : Option (List PyStr)
  inputs : Option (List PyStr)
  actions : Option (List PyStr)
  profiles : Option (List PyStr)
  cardVersion : Option PyStr
  maxNodes : Option Int
  maxDepth : Option Int
  maxPayloadBytes : Option Int
  maxInputTextBytes : Option Int
  maxInputsBytes : Option Int

def cardVersion : PyStr := py "1.5"
def cardProfileV1 : PyStr := py "octo/v1"
def cardProfileV2 : PyStr := py "octo/v2"
def adaptiveCardSchema : PyStr := py "http://adaptivecards.io/schemas/adaptive-card.json"

/-- `_profile_supported` -/
def profileSupported (capabilities : Option CardCapabilities) (profile : PyStr) : Bool :=
  match capabilities with
  | none => true
  | some capabilities =>
    !capabilities.authoritative ||
      (capabilities.enabled && capabilities.cardVersion = some cardVersion &&
        capabilities.profiles.any (profile ∈ ·))

/-- `_supports` -/
def supports (advertised : Option (List PyStr)) (capability : PyStr) : Bool :=
  advertised.all (capability ∈ ·)

/-- `capabilities is None or _supports(select(capabilities), capability)` -/
def offers (capabilities : Option CardCapabilities)
    (select : CardCapabilities → Option (List PyStr)) (capability : PyStr) : Bool :=
  capabilities.all fun capabilities => supports (select capabilities) capability

/-- A card with the text that stands in for it. -/
structure CardRenderResult where
  card : List (PyStr × Json)
  plain : PyStr

mutual

/-- `count_card_nodes` below the root: no object is reached twice in a tree. -/
def countInner : Json → Nat
  | .arr items => countItems items
  | .obj members => 1 + countMembers members
  | _ => 0

def countItems : List Json → Nat
  | [] => 0
  | item :: rest => countInner item + countItems rest

def countMembers : List (PyStr × Json) → Nat
  | [] => 0
  | (_, value) :: rest => countInner value + countMembers rest

end

/-- `count_card_nodes` of a card. -/
def countCardNodes (card : List (PyStr × Json)) : Nat := countMembers card

mutual

/-- `card_max_depth` below the root. -/
def depthFrom (depth : Nat) : Json → Nat
  | .arr items => itemsDepthFrom depth items
  | .obj members => membersDepthFrom (depth + 1) members
  | _ => depth

def itemsDepthFrom (depth : Nat) : List Json → Nat
  | [] => depth
  | item :: rest => max (depthFrom depth item) (itemsDepthFrom depth rest)

def membersDepthFrom (depth : Nat) : List (PyStr × Json) → Nat
  | [] => depth
  | (_, value) :: rest => max (depthFrom depth value) (membersDepthFrom depth rest)

end

/-- `card_max_depth` of a card. -/
def cardMaxDepth (card : List (PyStr × Json)) : Nat := membersDepthFrom 0 card

/-- The five replacements of `_go_json_bytes`. -/
def goEscape (point : CodePoint) : PyStr :=
  if point = ch '&' then py "\\u0026"
  else if point = ch '<' then py "\\u003c"
  else if point = ch '>' then py "\\u003e"
  else if point.val = 0x2028 then py "\\u2028"
  else if point.val = 0x2029 then py "\\u2029"
  else [point]

/-- `_go_json_bytes` -/
def goJsonBytes (value : Json) : Option Bytes := utf8Encode (value.print.flatMap goEscape)

def interactiveCardType : Int := 17

/-- The payload of `card_payload_bytes` without sequence number. -/
def cardPayload (card : List (PyStr × Json)) (plain profile : PyStr) : Json :=
  .obj [(py "type", .int interactiveCardType), (py "profile", .str profile),
    (py "card_version", .str cardVersion), (py "card", .obj card), (py "plain", .str plain)]

def defaultMaxCardNodes : Int := 200
def defaultMaxCardDepth : Int := 16
def defaultMaxCardPayloadBytes : Int := 512 * 2 ^ 10

def limitOf (capabilities : Option CardCapabilities) (select : CardCapabilities → Option Int)
    (default : Int) : Int :=
  (capabilities.bind select).getD default

/-- `validate_card_limits` -/
def validateCardLimits (card : List (PyStr × Json)) (plain : PyStr)
    (capabilities : Option CardCapabilities) (profile : PyStr) : Except RenderError Unit :=
  if limitOf capabilities CardCapabilities.maxNodes defaultMaxCardNodes < countCardNodes card then
    .error (.cardLimit "card exceeds max_nodes")
  else if limitOf capabilities CardCapabilities.maxDepth defaultMaxCardDepth < cardMaxDepth card then
    .error (.cardLimit "card exceeds max_depth")
  else
    match goJsonBytes (cardPayload card plain profile) with
    | none => .error (.other .unicodeError)
    | some bytes =>
      if limitOf capabilities CardCapabilities.maxPayloadBytes defaultMaxCardPayloadBytes <
          bytes.length then .error (.cardLimit "card exceeds max_payload_bytes")
      else .ok ()

/-- The card and its plain text stay within the limits for nodes, depth and payload. -/
structure WithinLimits (card : List (PyStr × Json)) (plain : PyStr)
    (capabilities : Option CardCapabilities) (profile : PyStr) : Prop where
  nodes : (countCardNodes card : Int) ≤
    limitOf capabilities CardCapabilities.maxNodes defaultMaxCardNodes
  depth : (cardMaxDepth card : Int) ≤
    limitOf capabilities CardCapabilities.maxDepth defaultMaxCardDepth
  payload : ∃ bytes, goJsonBytes (cardPayload card plain profile) = some bytes ∧
    (bytes.length : Int) ≤
      limitOf capabilities CardCapabilities.maxPayloadBytes defaultMaxCardPayloadBytes

theorem validateCardLimits_ok {card : List (PyStr × Json)} {plain : PyStr}
    {capabilities : Option CardCapabilities} {profile : PyStr} :
    validateCardLimits card plain capabilities profile = .ok () ↔
      WithinLimits card plain capabilities profile := by
  rw [validateCardLimits]
  by_cases nodes : limitOf capabilities CardCapabilities.maxNodes defaultMaxCardNodes <
      countCardNodes card
  · rw [if_pos nodes]
    exact iff_of_false (by simp) fun within => absurd within.nodes (Int.not_le.mpr nodes)
  · rw [if_neg nodes]
    by_cases deep : limitOf capabilities CardCapabilities.maxDepth defaultMaxCardDepth <
        cardMaxDepth card
    · rw [if_pos deep]
      exact iff_of_false (by simp) fun within => absurd within.depth (Int.not_le.mpr deep)
    · rw [if_neg deep]
      cases encoded : goJsonBytes (cardPayload card plain profile) with
      | none =>
        refine iff_of_false (by simp) fun within => ?_
        obtain ⟨bytes, known, _⟩ := within.payload
        cases encoded.symm.trans known
      | some bytes =>
        dsimp only
        by_cases large : limitOf capabilities CardCapabilities.maxPayloadBytes
            defaultMaxCardPayloadBytes < bytes.length
        · rw [if_pos large]
          refine iff_of_false (by simp) fun within => ?_
          obtain ⟨other, known, small⟩ := within.payload
          rw [Option.some.inj (encoded.symm.trans known)] at large
          exact absurd small (Int.not_le.mpr large)
        · rw [if_neg large]
          exact iff_of_true rfl
            ⟨Int.not_lt.mp nodes, Int.not_lt.mp deep, bytes, encoded, Int.not_lt.mp large⟩

private theorem encodable_of_goEscape {text : PyStr}
    (escaped : Foundation.Encodable (text.flatMap goEscape)) : Foundation.Encodable text := by
  intro point member
  have within : ∀ other ∈ goEscape point, other.toChar?.isSome := fun other inside =>
    escaped other (List.mem_flatMap.mpr ⟨point, member, inside⟩)
  rw [goEscape] at within
  split_ifs at within with ampersand less greater line paragraph
  · rw [ampersand]
    simp
  · rw [less]
    simp
  · rw [greater]
    simp
  · exact Json.toChar?_of_lt (by omega)
  · exact Json.toChar?_of_lt (by omega)
  · exact within point (by simp)

theorem scalar_of_goJsonBytes {value : Json} {bytes : Bytes}
    (encoded : goJsonBytes value = some bytes) : Json.Scalar value := by
  refine .of_print (encodable_of_goEscape ((utf8Encode_isSome_iff _).mp ?_))
  rw [goJsonBytes] at encoded
  rw [encoded]
  rfl

/-- Escaping keeps a text that can be encoded. -/
private theorem encodable_goEscape {text : PyStr} (encodable : Foundation.Encodable text) :
    Foundation.Encodable (text.flatMap goEscape) := by
  intro other inside
  obtain ⟨point, member, within⟩ := List.mem_flatMap.mp inside
  rw [goEscape] at within
  split_ifs at within with ampersand less greater line paragraph
  · exact encodable_py _ other within
  · exact encodable_py _ other within
  · exact encodable_py _ other within
  · exact encodable_py _ other within
  · exact encodable_py _ other within
  · rw [List.mem_singleton] at within
    rw [within]
    exact encodable point member

theorem goJsonBytes_of_scalar {value : Json} (scalar : Json.Scalar value) :
    ∃ bytes, goJsonBytes value = some bytes :=
  Option.isSome_iff_exists.mp
    ((utf8Encode_isSome_iff _).mpr (encodable_goEscape scalar.print))

theorem encodable_joined {separator : PyStr} {parts : List PyStr}
    (between : Foundation.Encodable separator)
    (each : ∀ part ∈ parts, Foundation.Encodable part) :
    Foundation.Encodable (joined separator parts) := by
  induction parts with
  | nil => simp [joined, Foundation.Encodable]
  | cons part rest ih =>
    rw [List.forall_mem_cons] at each
    cases rest with
    | nil => simpa [joined] using each.1
    | cons next others =>
      have later := ih each.2
      rw [joined, List.intersperse_cons_cons, List.flatten_cons, List.flatten_cons, encodable_append,
        encodable_append]
      exact ⟨each.1, between, later⟩

end OctoChannel.Rendering

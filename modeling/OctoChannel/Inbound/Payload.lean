import OctoChannel.Mentions.Conversion

/-! `MessagePayload.from_dict`: the fields of a message that have the type they need; a field
of another type counts as missing. -/

namespace OctoChannel.Inbound

open Foundation Mentions

abbrev Members := List (PyStr × Json)

/-- `MessageType` of `types.py`. -/
inductive MessageType where
  | Text
  | Image
  | GIF
  | Voice
  | Video
  | Location
  | Card
  | File
  | MultipleForward
  | RichText
  | InteractiveCard
  deriving DecidableEq, Repr

def MessageType.code : MessageType → Nat
  | .Text => 1
  | .Image => 2
  | .GIF => 3
  | .Voice => 4
  | .Video => 5
  | .Location => 6
  | .Card => 7
  | .File => 8
  | .MultipleForward => 11
  | .RichText => 14
  | .InteractiveCard => 17

def MessageType.all : List MessageType :=
  [.Text, .Image, .GIF, .Voice, .Video, .Location, .Card, .File, .MultipleForward, .RichText,
    .InteractiveCard]

/-- `value == number`, where `True == 1 == 1.0`. -/
def equalsNumber (number : Nat) : Json → Bool
  | .int value => value = number
  | .bool value => value.toNat = number
  | .float text => text = toString number ++ ".0"
  | _ => false

def MessageType.equals (type : MessageType) (value : Json) : Bool := equalsNumber type.code value

/-- `MessageType(value)`; any other value is a `ValueError`, hashable or not. -/
def MessageType.ofJson? (value : Json) : Option MessageType :=
  MessageType.all.find? fun type => type.equals value

/-- `MessageType | int` -/
inductive PayloadType where
  | known (type : MessageType)
  | other (code : Int)

def PayloadType.value : PayloadType → Json
  | .known type => .int type.code
  | .other code => .int code

/-- `raw_type if isinstance(raw_type, int) and not isinstance(raw_type, bool) else -1` -/
def plainCode : Json → Int
  | .int value => value
  | _ => -1

private theorem MessageType.mem_all (type : MessageType) : type ∈ all := by
  cases type <;> decide

theorem MessageType.code_inj {type other : MessageType} (same : type.code = other.code) :
    type = other := by
  cases type <;> cases other <;> first | rfl | cases same

theorem equalsNumber_inj {first second : Nat} {value : Json}
    (one : equalsNumber first value = true) (two : equalsNumber second value = true) :
    first = second := by
  cases value with
  | int value =>
    have one : value = first := of_decide_eq_true one
    have two : value = second := of_decide_eq_true two
    exact Int.ofNat_inj.mp (one.symm.trans two)
  | bool value =>
    have one : value.toNat = first := of_decide_eq_true one
    have two : value.toNat = second := of_decide_eq_true two
    exact one.symm.trans two
  | float text =>
    have one : text = toString first ++ ".0" := of_decide_eq_true one
    have two : text = toString second ++ ".0" := of_decide_eq_true two
    have digits := congrArg String.toList ((String.append_left_inj _).mp (one.symm.trans two))
    have read := congrArg (Nat.ofDigitChars 10 · 0) digits
    simpa using read
  | null => cases one
  | str text => cases one
  | arr items => cases one
  | obj members => cases one

theorem MessageType.equals_of_ofJson? {type : MessageType} {value : Json}
    (found : ofJson? value = some type) : type.equals value = true := by
  rw [ofJson?] at found
  have same := List.find?_some found
  exact same

/-- No value equals two types. -/
theorem MessageType.ofJson?_iff {type : MessageType} {value : Json} :
    ofJson? value = some type ↔ type.equals value = true := by
  constructor
  · exact equals_of_ofJson?
  · intro same
    cases found : ofJson? value with
    | none => exact absurd same (List.find?_eq_none.mp found type type.mem_all)
    | some other => rw [code_inj (equalsNumber_inj (equals_of_ofJson? found) same)]

def readType (raw : Json) : PayloadType :=
  match MessageType.ofJson? raw with
  | some type => .known type
  | none => .other (plainCode raw)

theorem readType_known_iff {type : MessageType} {raw : Json} :
    readType raw = .known type ↔ type.equals raw = true := by
  rw [← MessageType.ofJson?_iff, readType]
  cases MessageType.ofJson? raw with
  | none => simp
  | some other => simp

/-- The type that was read equals what the raw one equals. -/
theorem equals_readType {type : MessageType} {raw : Json} :
    type.equals (readType raw).value = true ↔ type.equals raw = true := by
  rw [readType]
  cases found : MessageType.ofJson? raw with
  | some other =>
    have same := MessageType.equals_of_ofJson? found
    constructor
    · intro equal
      have codes : (other.code : Int) = type.code := of_decide_eq_true equal
      rwa [MessageType.code_inj (Int.ofNat_inj.mp codes).symm]
    · intro equal
      rw [MessageType.code_inj (equalsNumber_inj equal same)]
      exact decide_eq_true rfl
  | none =>
    have none_equal : ¬ type.equals raw = true := by
      rw [← MessageType.ofJson?_iff, found]
      simp
    refine iff_of_false ?_ none_equal
    intro equal
    have codes : plainCode raw = type.code := of_decide_eq_true equal
    cases raw with
    | int value => exact none_equal (decide_eq_true codes)
    | null => cases codes
    | bool value => cases codes
    | float text => cases codes
    | str text => cases codes
    | arr items => cases codes
    | obj members => cases codes

def asText : Json → Option PyStr
  | .str text => some text
  | _ => none

def asMembers : Json → Option Members
  | .obj members => some members
  | _ => none

/-- `_coerce_wire_bool` -/
def coerceWireBool : Json → Option Bool
  | .bool value => some value
  | .int value => if value = 0 then some false else if value = 1 then some true else none
  | _ => none

/-- `[item for item in items if item]`, or `None` for an empty list. -/
def someList {Item : Type} (items : List Item) : Option (List Item) :=
  if items.isEmpty then none else some items

/-- An entity that passed; offset and length count UTF-16 units. -/
structure MentionEntity where
  uid : PyStr
  offset : Nat
  length : Nat
  named : uid ≠ []
  positive : 0 < length

def readEntity (entity : Members) : Option MentionEntity :=
  match Json.field (py "uid") entity, Json.field (py "offset") entity,
    Json.field (py "length") entity with
  | .str uid, .int offset, .int length =>
    if valid : uid ≠ [] ∧ 0 ≤ offset ∧ 0 < length then
      some ⟨uid, offset.toNat, length.toNat, valid.1, Int.pos_iff_toNat_pos.mp valid.2.2⟩
    else none
  | _, _, _ => none

structure MentionPayload where
  uids : Option (List PyStr)
  entities : Option (List MentionEntity)
  all : Option Bool
  humans : Option Bool
  ais : Option Bool

def readMention (mention : Members) : MentionPayload where
  uids :=
    match Json.field (py "uids") mention with
    | .arr items => someList ((items.filterMap asText).filter fun uid => !uid.isEmpty)
    | _ => none
  entities :=
    match Json.field (py "entities") mention with
    | .arr items =>
      someList (((items.take maxMentionsPerMessage).filterMap asMembers).filterMap readEntity)
    | _ => none
  all := coerceWireBool (Json.field (py "all") mention)
  humans := coerceWireBool (Json.field (py "humans") mention)
  ais := coerceWireBool (Json.field (py "ais") mention)

structure ReplyPayload where
  payload : Option Members
  fromUid : Option PyStr
  fromName : Option PyStr

def readReply (reply : Members) : ReplyPayload where
  payload := asMembers (Json.field (py "payload") reply)
  fromUid := asText (Json.field (py "from_uid") reply)
  fromName := asText (Json.field (py "from_name") reply)

structure MessagePayload where
  type : PayloadType
  content : Option PyStr
  url : Option PyStr
  name : Option PyStr
  mention : Option MentionPayload
  reply : Option ReplyPayload
  event : Option Members
  blocks : Option (List Members)
  plain : Option PyStr
  extra : Members

def knownKeys : List PyStr :=
  [py "type", py "content", py "url", py "name", py "mention", py "reply", py "event", py "plain"]

/-- An object that is not empty. -/
def asFilled (value : Json) : Option Members := (asMembers value).filter fun members => !members.isEmpty

/-- `data.get("type", 1)` -/
def rawType (data : Members) : Json := (Dict.lookup (py "type") data).getD (.int 1)

/-- `MessagePayload.from_dict` -/
def MessagePayload.fromDict (data : Members) : MessagePayload where
  type := readType (rawType data)
  content := asText (Json.field (py "content") data)
  url := asText (Json.field (py "url") data)
  name := asText (Json.field (py "name") data)
  mention := (asFilled (Json.field (py "mention") data)).map readMention
  reply := (asFilled (Json.field (py "reply") data)).map readReply
  event := asMembers (Json.field (py "event") data)
  blocks :=
    match Json.field (py "content") data with
    | .arr items => some (items.filterMap asMembers)
    | _ => none
  plain := asText (Json.field (py "plain") data)
  extra := data.filter fun member => member.1 ∉ knownKeys

private theorem lookup_filter_keys {Value : Type} (keep : PyStr → Bool) {key : PyStr}
    (kept : keep key = true) (members : List (PyStr × Value)) :
    Dict.lookup key (members.filter fun member => keep member.1) = Dict.lookup key members := by
  induction members with
  | nil => rfl
  | cons member rest ih =>
    by_cases here : keep member.1 = true
    · rw [List.filter_cons, if_pos here, Dict.lookup, Dict.lookup, ih]
    · have other : member.1 ≠ key := by
        intro same
        rw [same] at here
        exact here kept
      rw [List.filter_cons, if_neg here, ih, Dict.lookup, if_neg other]

/-- A field that the payload has no place for is found in `extra`. -/
theorem field_extra {key : PyStr} (unknown : key ∉ knownKeys) (data : Members) :
    Json.field key (MessagePayload.fromDict data).extra = Json.field key data := by
  have found := lookup_filter_keys (fun key => decide (key ∉ knownKeys))
    (decide_eq_true unknown) data
  rw [Json.field, Json.field, MessagePayload.fromDict]
  exact congrArg (·.getD .null) found

end OctoChannel.Inbound

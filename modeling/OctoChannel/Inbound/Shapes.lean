import OctoChannel.Inbound.Forwards

namespace OctoChannel.Inbound

open Foundation Mentions

/-- A loop can go through it, or it is replaced by an empty list. -/
def Iterable : Json → Prop
  | .arr _ | .str _ | .obj _ => True
  | value => truthy value = false

/-- The objects among the items of a list. -/
def listed : Json → List Members
  | .arr items => items.filterMap asMembers
  | _ => []

theorem objectsIn_ok {value : Json} (iterable : Iterable value) :
    Resolver.objectsIn value = .ok (listed value) := by
  cases value with
  | arr items => rfl
  | str text => rfl
  | obj members => rfl
  | null => rfl
  | bool value => exact if_neg (Bool.not_eq_true _ ▸ iterable)
  | int value => exact if_neg (Bool.not_eq_true _ ▸ iterable)
  | float text => exact if_neg (Bool.not_eq_true _ ▸ iterable)

theorem objectsIn_error {value : Json} (stuck : ¬ Iterable value) :
    Resolver.objectsIn value = .error .typeError := by
  cases value with
  | arr items => exact absurd trivial stuck
  | str text => exact absurd trivial stuck
  | obj members => exact absurd trivial stuck
  | null => exact absurd rfl stuck
  | bool value => exact if_pos (Bool.of_not_eq_false stuck)
  | int value => exact if_pos (Bool.of_not_eq_false stuck)
  | float text => exact if_pos (Bool.of_not_eq_false stuck)

theorem truthy_of_stuck {value : Json} (stuck : ¬ Iterable value) : truthy value = true := by
  by_contra falsy
  rw [Bool.not_eq_true] at falsy
  apply stuck
  cases value with
  | arr items => trivial
  | str text => trivial
  | obj members => trivial
  | null => exact falsy
  | bool value => exact falsy
  | int value => exact falsy
  | float text => exact falsy

theorem truthy_of_listed {value : Json} {object : Members} (member : object ∈ listed value) :
    truthy value = true := by
  cases value with
  | arr items =>
    cases items with
    | nil => cases member
    | cons item rest => rfl
  | null => cases member
  | bool value => cases member
  | int value => cases member
  | float text => cases member
  | str text => cases member
  | obj members => cases member

/-- A user whose name is learned has a text for a uid. -/
def Known (user : Members) : Prop :=
  truthy (Json.field (py "uid") user) = true → truthy (Json.field (py "name") user) = true →
    ∃ text, Json.field (py "uid") user = .str text

/-- The loops over users and messages go through. -/
structure Opens (payload : Members) : Prop where
  users : Iterable (Json.field (py "users") payload)
  known : ∀ user ∈ listed (Json.field (py "users") payload), Known user
  messages : Iterable (Json.field (py "msgs") payload)

abbrev messagesIn (payload : Members) : List Members := listed (Json.field (py "msgs") payload)

/-- A message that is rendered, where `readable` tells which forwards are. -/
structure Fits (readable : Members → Prop) (message : Members) : Prop where
  sender : Resolver.hashable (Resolver.senderOf message) = true
  payload : ∃ payload, Resolver.payloadOf message = some payload ∧
    if Resolver.isForward payload then readable payload
    else Resolver.Labelled (Json.field (py "type") payload) (Json.field (py "name") payload)

/-- A message whose payload is no object, or a forward that breaks. -/
structure Bursts (breaks : Members → Prop) (message : Members) : Prop where
  sender : Resolver.hashable (Resolver.senderOf message) = true
  payload : Resolver.payloadOf message = none ∨ ∃ payload,
    Resolver.payloadOf message = some payload ∧ Resolver.isForward payload = true ∧ breaks payload

/-- A forward that is rendered by so many calls. -/
def Readable : Nat → Members → Prop
  | 0, _ => False
  | room + 1, payload => Opens payload ∧ ∀ message ∈ messagesIn payload, Fits (Readable room) message

/-- A forward whose first message that does not fit is one that bursts. -/
def Breaks : Nat → Members → Prop
  | 0, _ => True
  | room + 1, payload => Opens payload ∧ ∃ before message after,
    messagesIn payload = before ++ message :: after ∧
      (∀ earlier ∈ before, Fits (Readable room) earlier) ∧ Bursts (Breaks room) message

/-- A payload that is rendered: the name of a file can be shown, and a forward is readable. -/
structure Renders (room : Nat) (data : Members) : Prop where
  file : MessageType.File.equals (rawType data) = true →
    Resolver.SafeName (Json.field (py "name") data)
  forward : MessageType.MultipleForward.equals (rawType data) = true → Readable room data

/-- A quoted payload that is a forward which breaks. -/
def QuoteBreaks (room : Nat) (reply : Json) : Prop :=
  ∃ data, reply = .obj data ∧ MessageType.MultipleForward.equals (rawType data) = true ∧
    Breaks room data

section Fields

variable {first second : Members}
  (users : Json.field (py "users") first = Json.field (py "users") second)
  (msgs : Json.field (py "msgs") first = Json.field (py "msgs") second)

include users msgs

theorem opens_congr : Opens first ↔ Opens second := by
  constructor
  · rintro ⟨iterable, known, messages⟩
    exact ⟨users ▸ iterable, users ▸ known, msgs ▸ messages⟩
  · rintro ⟨iterable, known, messages⟩
    exact ⟨users ▸ iterable, users ▸ known, msgs ▸ messages⟩

private theorem readable_congr (room : Nat) : Readable room first ↔ Readable room second := by
  cases room with
  | zero => exact Iff.rfl
  | succ room => rw [Readable, Readable, opens_congr users msgs, messagesIn, messagesIn, msgs]

private theorem breaks_congr (room : Nat) : Breaks room first ↔ Breaks room second := by
  cases room with
  | zero => exact Iff.rfl
  | succ room => rw [Breaks, Breaks, opens_congr users msgs, messagesIn, messagesIn, msgs]

end Fields

theorem readable_extra (room : Nat) (data : Members) :
    Readable room (MessagePayload.fromDict data).extra ↔ Readable room data :=
  readable_congr (field_extra (by decide) data) (field_extra (by decide) data) room

theorem breaks_extra (room : Nat) (data : Members) :
    Breaks room (MessagePayload.fromDict data).extra ↔ Breaks room data :=
  breaks_congr (field_extra (by decide) data) (field_extra (by decide) data) room

end OctoChannel.Inbound

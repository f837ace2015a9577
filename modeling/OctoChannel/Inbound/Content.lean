import OctoChannel.Chats.DirectMessages
import OctoChannel.Inbound.Totality

namespace OctoChannel.Inbound

open Foundation Mentions Chats Attempt

namespace Resolver

variable (resolver : Resolver)

theorem safeName_fromDict (data : Members) :
    SafeName (nameOfPayload (.fromDict data)) ↔ SafeName (Json.field (py "name") data) := by
  rw [nameOfPayload, MessagePayload.fromDict]
  cases Json.field (py "name") data with
  | str text => exact Iff.rfl
  | null => exact Iff.rfl
  | bool value => simp [asText, SafeName]
  | int value => simp [asText, SafeName]
  | float text => simp [asText, SafeName]
  | arr items => simp [asText, SafeName]
  | obj members => simp [asText, SafeName]

private theorem labelled_fromDict (data : Members) :
    Labelled (MessagePayload.fromDict data).type.value (nameOfPayload (.fromDict data)) ↔
      (MessageType.File.equals (rawType data) = true → SafeName (Json.field (py "name") data)) := by
  have keyed : ∀ type : PayloadType, hashable type.value = true := by
    intro type
    cases type with
    | known type => rfl
    | other code => rfl
  have file : MessageType.File.equals (MessagePayload.fromDict data).type.value = true ↔
      MessageType.File.equals (rawType data) = true := equals_readType
  constructor
  · intro labelled same
    exact (safeName_fromDict data).mp (labelled.file (file.mpr same))
  · intro safe
    exact ⟨keyed _, fun same => (safeName_fromDict data).mpr (safe (file.mp same))⟩

theorem resolveContent_of_label {label : Option PyStr} {payload : MessagePayload} (room : Nat)
    (ran : resolver.renderUrlFreeMediaPlaceholder payload.type.value (nameOfPayload payload) =
      .ok label) :
    resolver.resolveContent room payload =
      label.elim (resolver.unlabelledContent room payload) pure := by
  rw [resolveContent, ran]
  cases label with
  | none => rfl
  | some placeholder => rfl

/-- Only forwards are rendered by more than one step. -/
private theorem unlabelledContent_cases (room : Nat) (payload : MessagePayload) :
    (resolver.unlabelledContent room payload).Returns ∨
      payload.type = .known .MultipleForward ∧ resolver.unlabelledContent room payload =
        resolver.resolveMultipleForwardText room payload.extra := by
  rw [unlabelledContent]
  split
  · exact .inl (returns_pure _)
  · exact .inl (returns_pure _)
  · exact .inl (returns_pure _)
  · exact .inl (returns_pure _)
  · rename_i forward
    exact .inr ⟨forward, rfl⟩
  · exact .inl (returns_pure _)
  · exact .inl ((returns_modify _).bind fun _ => returns_pure _)

/-- No label stands for a forward. -/
private theorem placeholder_of_forward {payload : MessagePayload}
    (forward : payload.type = .known .MultipleForward) :
    resolver.renderUrlFreeMediaPlaceholder payload.type.value (nameOfPayload payload) =
      .ok none := by
  rw [forward]
  rfl

theorem resolveContent_of_forward {payload : MessagePayload} (room : Nat)
    (forward : payload.type = .known .MultipleForward) :
    resolver.resolveContent room payload =
      resolver.resolveMultipleForwardText room payload.extra := by
  rw [resolver.resolveContent_of_label room (resolver.placeholder_of_forward forward),
    Option.elim_none, unlabelledContent, forward]

section Payload

variable {room : Nat} {data : Members}

/-- A payload is rendered, it is a forward, or its name cannot be shown. -/
theorem resolveContent_cases (room : Nat) (data : Members) :
    (MessageType.MultipleForward.equals (rawType data) = true ∧
      resolver.resolveContent room (.fromDict data) =
        resolver.resolveMultipleForwardText room (MessagePayload.fromDict data).extra) ∨
    (¬ MessageType.MultipleForward.equals (rawType data) = true ∧
      ((MessageType.File.equals (rawType data) = true → SafeName (Json.field (py "name") data)) ∧
          (resolver.resolveContent room (.fromDict data)).Returns ∨
        ¬ (MessageType.File.equals (rawType data) = true →
            SafeName (Json.field (py "name") data)) ∧
          (resolver.resolveContent room (.fromDict data)).Raises Fault.IsCaught)) := by
  by_cases forward : MessageType.MultipleForward.equals (rawType data) = true
  · exact .inl ⟨forward, resolver.resolveContent_of_forward room (readType_known_iff.mpr forward)⟩
  · refine .inr ⟨forward, ?_⟩
    rw [← labelled_fromDict]
    by_cases labelled : Labelled (MessagePayload.fromDict data).type.value
        (nameOfPayload (.fromDict data))
    · refine .inl ⟨labelled, ?_⟩
      obtain ⟨label, ran⟩ := resolver.renderUrlFreeMediaPlaceholder_ok labelled
      rw [resolver.resolveContent_of_label room ran]
      cases label with
      | some placeholder => exact returns_pure _
      | none =>
        rcases resolver.unlabelledContent_cases room (.fromDict data) with returns | ⟨other, _⟩
        · exact returns
        · exact absurd (readType_known_iff.mp other) forward
    · refine .inr ⟨labelled, ?_⟩
      rw [resolveContent]
      exact (raises_lift (resolver.renderUrlFreeMediaPlaceholder_error labelled)).bind _

/-- A forward is no file. -/
private theorem file_of_forward
    (forward : MessageType.MultipleForward.equals (rawType data) = true) :
    ¬ MessageType.File.equals (rawType data) = true := by
  intro file
  have codes := equalsNumber_inj forward file
  cases codes

theorem returns_content (renders : Renders room data) :
    (resolver.resolveContent room (.fromDict data)).Returns := by
  rcases resolver.resolveContent_cases room data with
    ⟨forward, same⟩ | ⟨_, ⟨_, returns⟩ | ⟨unsafeName, _⟩⟩
  · rw [same]
    exact resolver.returns_forward ((readable_extra room data).mpr (renders.forward forward))
  · exact returns
  · exact absurd renders.file unsafeName

theorem escapes_content (forward : MessageType.MultipleForward.equals (rawType data) = true)
    (breaks : Breaks room data) :
    (resolver.resolveContent room (.fromDict data)).Raises Escapes := by
  rw [resolver.resolveContent_of_forward room (readType_known_iff.mpr forward)]
  exact resolver.escapes_forward ((breaks_extra room data).mpr breaks)

theorem caught_content (fails : ¬ Renders room data)
    (whole : MessageType.MultipleForward.equals (rawType data) = true → ¬ Breaks room data) :
    (resolver.resolveContent room (.fromDict data)).Raises Fault.IsCaught := by
  rcases resolver.resolveContent_cases room data with
    ⟨forward, same⟩ | ⟨other, ⟨safe, _⟩ | ⟨_, raises⟩⟩
  · rw [same]
    apply resolver.caught_forward
    · intro readable
      exact fails ⟨fun file => absurd file (file_of_forward forward),
        fun _ => (readable_extra room data).mp readable⟩
    · exact fun breaks => whole forward ((breaks_extra room data).mp breaks)
  · exact absurd ⟨safe, fun forward => absurd forward other⟩ fails
  · exact raises

end Payload

theorem depth_field_le (key : PyStr) (members : Members) :
    (Json.field key members).depth ≤ Json.membersDepth members := by
  rw [Json.field]
  induction members with
  | nil => exact Nat.le_refl 0
  | cons member rest ih =>
    rw [Dict.lookup, Json.membersDepth]
    split
    · exact Nat.le_max_left _ _
    · exact Nat.le_trans ih (Nat.le_max_right _ _)

private theorem depth_listed {value : Json} {object : Members} (member : object ∈ listed value) :
    Json.membersDepth object + 2 ≤ value.depth := by
  cases value with
  | arr items =>
    obtain ⟨item, present, same⟩ := List.mem_filterMap.mp member
    have inside := (Json.itemsDepth_le_iff items _).mp (Nat.le_refl _) item present
    cases item with
    | obj members =>
      cases same
      rw [Json.depth] at inside
      rw [Json.depth]
      omega
    | null => cases same
    | bool value => cases same
    | int value => cases same
    | float text => cases same
    | str text => cases same
    | arr items => cases same
  | null => cases member
  | bool value => cases member
  | int value => cases member
  | float text => cases member
  | str text => cases member
  | obj members => cases member

private theorem depth_payloadOf {message payload : Members}
    (found : payloadOf message = some payload) :
    Json.membersDepth payload ≤ Json.membersDepth message := by
  have field := depth_field_le (py "payload") message
  rw [payloadOf] at found
  split at found
  · cases inner : Json.field (py "payload") message with
    | obj members =>
      rw [inner] at found field
      cases found
      rw [Json.depth] at field
      omega
    | null => rw [inner] at found; cases found
    | bool value => rw [inner] at found; cases found
    | int value => rw [inner] at found; cases found
    | float text => rw [inner] at found; cases found
    | str text => rw [inner] at found; cases found
    | arr items => rw [inner] at found; cases found
  · cases found
    exact Nat.zero_le _

/-- A payload inside a forward is less deep than the forward. -/
private theorem depth_inner {payload message inner : Members}
    (member : message ∈ messagesIn payload)
    (found : payloadOf message = some inner) :
    Json.membersDepth inner < Json.membersDepth payload := by
  have messages := depth_listed member
  have below := depth_payloadOf found
  have field := depth_field_le (py "msgs") payload
  omega

theorem caught_avoids {Value : Type} {attempt : Resolving Value}
    (raises : attempt.Raises Fault.IsCaught) : attempt.Avoids .recursionError :=
  raises.avoids id

private theorem avoids_learnUser (user : Members) :
    (resolver.learnUser user).Avoids .recursionError := by
  by_cases known : Known user
  · exact (resolver.returns_learnUser known).avoids _
  · exact caught_avoids (resolver.raises_learnUser known)

private theorem avoids_messageLines {nested : Members → Resolving PyStr} {message : Members}
    (userMap : List (Json × Json)) (shallow : ∀ inner, payloadOf message = some inner →
      (nested inner).Avoids .recursionError) :
    (resolver.messageLines nested userMap message).Avoids .recursionError := by
  cases keyed : hashable (senderOf message) with
  | false =>
    rw [messageLines, keyed]
    exact (raises_throw (rfl : Fault.typeError = .typeError)).avoids (by simp)
  | true =>
    rw [messageLines_eq resolver keyed]
    refine (returns_get.avoids _).bind fun memory => ?_
    dsimp only
    cases found : payloadOf message with
    | none => exact (raises_throw (rfl : Fault.attributeError = .attributeError)).avoids (by simp)
    | some payload =>
      dsimp only
      cases forward : isForward payload with
      | true => exact (shallow payload found).bind fun _ => (returns_pure _).avoids _
      | false =>
        refine Avoids.bind ?_ fun _ => (returns_pure _).avoids _
        by_cases labelled : Labelled (Json.field (py "type") payload)
            (Json.field (py "name") payload)
        · exact (resolver.returns_innerText found forward labelled).avoids _
        · exact caught_avoids (resolver.raises_innerText found labelled)

/-- As many calls as the payload is deep are enough. -/
private theorem avoids_forward {room : Nat} {payload : Members}
    (deep : Json.membersDepth payload < room) :
    (resolver.resolveMultipleForwardText room payload).Avoids .recursionError := by
  induction room generalizing payload with
  | zero => exact absurd deep (Nat.not_lt_zero _)
  | succ room ih =>
    by_cases users : Iterable (Json.field (py "users") payload)
    · rw [resolver.resolve_of_iterable room users]
      refine (avoids_mapM fun user _ => resolver.avoids_learnUser user).bind fun learned => ?_
      by_cases messages : Iterable (Json.field (py "msgs") payload)
      · cases filled : truthy (Json.field (py "msgs") payload) with
        | false =>
          rw [forwardText, if_neg (by simp [filled])]
          exact (returns_pure _).avoids _
        | true =>
          rw [resolver.forwardText_of_iterable _ messages filled]
          refine Avoids.bind ?_ fun _ => (returns_pure _).avoids _
          apply avoids_mapM
          intro message member
          apply resolver.avoids_messageLines
          intro inner found
          have below := depth_inner member found
          exact ih (by omega)
      · exact caught_avoids (resolver.stuck_forwardText _ messages)
    · rw [resolveMultipleForwardText, objectsIn_error users]
      exact (raises_throw (rfl : Fault.typeError = .typeError)).avoids (by simp)

private theorem depth_extra_le (data : Members) :
    Json.membersDepth (MessagePayload.fromDict data).extra ≤ Json.membersDepth data := by
  rw [Json.membersDepth_le_iff]
  intro member present
  have inside : member ∈ data := (List.mem_filter.mp present).1
  exact (Json.membersDepth_le_iff data _).mp (Nat.le_refl _) member inside

private theorem avoids_content {room : Nat} {data : Members}
    (deep : Json.membersDepth data < room) :
    (resolver.resolveContent room (.fromDict data)).Avoids .recursionError := by
  rcases resolver.resolveContent_cases room data with ⟨_, same⟩ | ⟨_, ⟨_, returns⟩ | ⟨_, raises⟩⟩
  · rw [same]
    exact resolver.avoids_forward (Nat.lt_of_le_of_lt (depth_extra_le data) deep)
  · exact returns.avoids _
  · exact caught_avoids raises

private theorem returns_quoted {room : Nat} {reply : Json} (whole : ¬ QuoteBreaks room reply) :
    (resolver.resolveQuotedMessageText room reply).Returns := by
  cases reply with
  | obj data =>
    rw [resolveQuotedMessageText]
    by_cases renders : Renders room data
    · exact ((resolver.returns_content renders).bind fun _ => returns_pure _).tryCatch _
    · have raises := resolver.caught_content renders fun forward breaks =>
        whole ⟨data, rfl, forward, breaks⟩
      refine (raises.bind _).tryCatch fun fault caught => ?_
      rw [if_pos caught]
      exact returns_pure []
  | null => exact returns_pure []
  | bool value => exact returns_pure []
  | int value => exact returns_pure []
  | float text => exact returns_pure []
  | str text => exact returns_pure []
  | arr items => exact returns_pure []

private theorem escapes_quoted {room : Nat} {reply : Json} (breaks : QuoteBreaks room reply) :
    (resolver.resolveQuotedMessageText room reply).Raises Escapes := by
  obtain ⟨data, rfl, forward, broken⟩ := breaks
  rw [resolveQuotedMessageText]
  refine ((resolver.escapes_content forward broken).bind _).tryCatch fun fault escapes => ?_
  rw [if_neg escapes]
  exact raises_throw escapes

/-- An inbound payload is rendered exactly when its shape allows it, and a quoted one when it
is no forward that breaks; a forward ends with the calls that its depth asks for. -/
theorem inboundContent_rendered_iff (room : Nat) (data : Members) (reply : Json)
    (memory : Memory) :
    ((∃ text later, (resolver.resolveContent room (.fromDict data)).run.run memory =
        (.ok text, later)) ↔ Renders room data) ∧
      ((∃ text later, (resolver.resolveQuotedMessageText room reply).run.run memory =
        (.ok text, later)) ↔ ¬ QuoteBreaks room reply) ∧
      ∃ enough, ∀ room, enough ≤ room → ∀ memory,
        ((resolver.resolveContent room (.fromDict data)).run.run memory).1 ≠
          .error .recursionError := by
  refine ⟨⟨?_, ?_⟩, ⟨?_, ?_⟩, ?_⟩
  · intro rendered
    by_contra fails
    by_cases broken : MessageType.MultipleForward.equals (rawType data) = true ∧ Breaks room data
    · exact (resolver.escapes_content broken.1 broken.2).run_ne memory rendered
    · have raises := resolver.caught_content fails fun forward breaks => broken ⟨forward, breaks⟩
      exact raises.run_ne memory rendered
  · intro renders
    exact (resolver.returns_content renders).run memory
  · intro rendered breaks
    exact (resolver.escapes_quoted breaks).run_ne memory rendered
  · intro whole
    exact (resolver.returns_quoted whole).run memory
  · refine ⟨Json.membersDepth data + 1, ?_⟩
    intro room enough memory
    exact resolver.avoids_content enough memory

def plainResolver : Resolver where
  digits := asciiDigits
  isFormat := fun _ => false
  surrogate := fun _ _ => rfl
  str := Json.print
  equal := fun _ _ => false
  apiUrl := []
  cdnUrl := []

def emptyMemory : Memory := ⟨[], .empty, .empty, unknownMessageTypeTelemetryCap⟩

/-- A forward with one message, whose payload is a text. -/
def textForward : Members :=
  [(py "type", .int 11), (py "msgs", .arr [.obj [(py "payload", .str (py "hello"))]])]

/-- The message is lost, and so is one that quotes it. -/
theorem textForward_raises :
    ((plainResolver.resolveContent 1000 (.fromDict textForward)).run.run emptyMemory).1 =
        .error .attributeError ∧
      ((plainResolver.resolveQuotedMessageText 1000 (.obj textForward)).run.run emptyMemory).1 =
        .error .attributeError := by
  constructor <;> rfl

end Resolver

end OctoChannel.Inbound

import OctoChannel.Inbound.Shapes

/-! When content is rendered: which payloads end in a text, and which in an exception that the
quoting of a message does not catch. -/

namespace OctoChannel.Inbound

open Foundation Mentions Attempt

abbrev Escapes (fault : Fault) : Prop := ¬ fault.IsCaught

private theorem returns_lift {Value : Type} {result : Except Fault Value}
    (ran : ∃ value, result = .ok value) : (liftM result : Resolving Value).Returns := by
  obtain ⟨value, rfl⟩ := ran
  exact returns_pure value

theorem raises_lift {Value : Type} {kind : Fault → Prop} {result : Except Fault Value}
    (ran : ∃ fault, kind fault ∧ result = .error fault) :
    (liftM result : Resolving Value).Raises kind := by
  obtain ⟨fault, fits, rfl⟩ := ran
  exact raises_throw fits

theorem returns_modify (change : Memory → Memory) : (modify change : Resolving Unit).Returns :=
  fun _ => ⟨(), rfl⟩

theorem returns_get : (get : Resolving Memory).Returns := fun memory => ⟨memory, rfl⟩

namespace Resolver

variable (resolver : Resolver)

private theorem returns_recordUidName (text : PyStr) (name : Json) :
    (resolver.recordUidName (.str text) name).Returns := by
  refine (returns_modify _).bind fun _ => ?_
  dsimp only
  split
  · exact returns_modify _
  · exact returns_pure ()

private theorem raises_recordUidName {uid : Json} (other : ∀ text, uid ≠ .str text) (name : Json) :
    (resolver.recordUidName uid name).Raises Fault.IsCaught := by
  refine (returns_modify _).bind_raises fun _ => ?_
  cases uid with
  | str text => exact absurd rfl (other text)
  | null => exact raises_throw trivial
  | bool value => exact raises_throw trivial
  | int value => exact raises_throw trivial
  | float text => exact raises_throw trivial
  | arr items => exact raises_throw trivial
  | obj members => exact raises_throw trivial

theorem returns_learnUser {user : Members} (known : Known user) :
    (resolver.learnUser user).Returns := by
  rw [learnUser]
  dsimp only
  split
  · rename_i named
    rw [Bool.and_eq_true] at named
    obtain ⟨text, uid⟩ := known named.1 named.2
    rw [uid]
    exact (returns_recordUidName resolver text _).bind fun _ => returns_pure _
  · exact returns_pure none

theorem raises_learnUser {user : Members} (unknown : ¬ Known user) :
    (resolver.learnUser user).Raises Fault.IsCaught := by
  simp only [Known, not_forall] at unknown
  obtain ⟨uid, name, other⟩ := unknown
  rw [learnUser]
  dsimp only
  rw [uid, name, Bool.and_self, if_pos rfl]
  cases hashable (Json.field (py "uid") user) with
  | false => exact raises_throw trivial
  | true =>
    have learns := resolver.raises_recordUidName (not_exists.mp other) (Json.field (py "name") user)
    exact learns.bind _

section Message

variable {nested : Members → Resolving PyStr} {userMap : List (Json × Json)} {message : Members}
  {payload : Members}

theorem returns_innerText (found : payloadOf message = some payload)
    (plain : isForward payload = false)
    (labelled : Labelled (Json.field (py "type") payload) (Json.field (py "name") payload)) :
    (resolver.resolveInnerMessageText nested message).Returns := by
  rw [resolveInnerMessageText, found]
  refine (returns_lift (resolver.renderUrlFreeMediaPlaceholder_ok labelled)).bind fun label => ?_
  cases label with
  | some placeholder => exact returns_pure _
  | none =>
    dsimp only
    split_ifs with text filled location card interactive forward rich
    · exact returns_pure _
    · exact returns_pure _
    · exact returns_pure _
    · exact returns_pure _
    · exact returns_pure _
    · rw [isForward, forward] at plain
      cases plain
    · exact returns_pure _
    · split
      · exact returns_pure _
      · exact (returns_modify _).bind fun _ => returns_pure _

theorem raises_innerText (found : payloadOf message = some payload)
    (unlabelled : ¬ Labelled (Json.field (py "type") payload) (Json.field (py "name") payload)) :
    (resolver.resolveInnerMessageText nested message).Raises Fault.IsCaught := by
  rw [resolveInnerMessageText, found]
  exact (raises_lift (resolver.renderUrlFreeMediaPlaceholder_error unlabelled)).bind _

/-- With a sender that a dictionary takes, the payload decides. -/
theorem messageLines_eq (keyed : hashable (senderOf message) = true) :
    resolver.messageLines nested userMap message = get >>= fun memory =>
      let sender := resolver.format (resolver.senderName userMap memory (senderOf message))
      match payloadOf message with
      | none => throw .attributeError
      | some payload =>
        if isForward payload then do
          let text ← nested payload
          return [sender ++ py ": [合并转发]", text]
        else do
          let body ← resolver.resolveInnerMessageText nested message
          return [sender ++ py ": " ++ resolver.format body] := by
  rw [messageLines, keyed]
  rfl

theorem returns_messageLines {readable : Members → Prop} (fits : Fits readable message)
    (renders : ∀ inner, readable inner → (nested inner).Returns) :
    (resolver.messageLines nested userMap message).Returns := by
  obtain ⟨keyed, payload, found, rendered⟩ := fits
  rw [messageLines_eq resolver keyed]
  refine returns_get.bind fun memory => ?_
  dsimp only
  rw [found]
  dsimp only
  cases forward : isForward payload with
  | true =>
    rw [forward, if_pos rfl] at rendered
    exact (renders payload rendered).bind fun _ => returns_pure _
  | false =>
    rw [forward, if_neg (by simp)] at rendered
    exact (resolver.returns_innerText found forward rendered).bind fun _ => returns_pure _

private theorem escapes_messageLines {breaks : Members → Prop} (bursts : Bursts breaks message)
    (fails : ∀ inner, breaks inner → (nested inner).Raises Escapes) :
    (resolver.messageLines nested userMap message).Raises Escapes := by
  obtain ⟨keyed, payload⟩ := bursts
  rw [messageLines_eq resolver keyed]
  refine returns_get.bind_raises fun memory => ?_
  dsimp only
  rcases payload with missing | ⟨payload, found, forward, broken⟩
  · rw [missing]
    exact raises_throw id
  · rw [found]
    dsimp only
    rw [forward, if_pos rfl]
    exact (fails payload broken).bind _

private theorem caught_messageLines {readable breaks : Members → Prop}
    (unfit : ¬ Fits readable message)
    (holds : ¬ Bursts breaks message)
    (fails : ∀ inner, ¬ readable inner → ¬ breaks inner → (nested inner).Raises Fault.IsCaught) :
    (resolver.messageLines nested userMap message).Raises Fault.IsCaught := by
  cases keyed : hashable (senderOf message) with
  | false =>
    rw [messageLines, keyed]
    exact raises_throw trivial
  | true =>
    rw [messageLines_eq resolver keyed]
    refine returns_get.bind_raises fun memory => ?_
    dsimp only
    cases found : payloadOf message with
    | none => exact absurd ⟨keyed, .inl found⟩ holds
    | some payload =>
      dsimp only
      cases forward : isForward payload with
      | true =>
        have unreadable : ¬ readable payload := fun rendered =>
          unfit ⟨keyed, payload, found, by rwa [forward, if_pos rfl]⟩
        have whole : ¬ breaks payload := fun broken =>
          holds ⟨keyed, .inr ⟨payload, found, forward, broken⟩⟩
        exact (fails payload unreadable whole).bind _
      | false =>
        have unlabelled : ¬ Labelled (Json.field (py "type") payload)
            (Json.field (py "name") payload) := fun labelled =>
          unfit ⟨keyed, payload, found, by rwa [forward, if_neg (by simp)]⟩
        exact (resolver.raises_innerText found unlabelled).bind _

end Message

section Forward

variable {nested : Members → Resolving PyStr} {payload : Members} {kind : Fault → Prop}

theorem forwardText_of_iterable (userMap : List (Json × Json))
    (iterable : Iterable (Json.field (py "msgs") payload))
    (filled : truthy (Json.field (py "msgs") payload) = true) :
    resolver.forwardText nested payload userMap =
      ((messagesIn payload).mapM (resolver.messageLines nested userMap) >>= fun lines =>
        return [ch '\n'].intercalate (py "[合并转发: 聊天记录]" :: lines.flatten)) := by
  rw [forwardText, if_pos filled, objectsIn_ok iterable]
  rfl

private theorem returns_forwardText {userMap : List (Json × Json)}
    (iterable : Iterable (Json.field (py "msgs") payload))
    (each : ∀ message ∈ messagesIn payload,
      (resolver.messageLines nested userMap message).Returns) :
    (resolver.forwardText nested payload userMap).Returns := by
  cases filled : truthy (Json.field (py "msgs") payload) with
  | false =>
    rw [forwardText, if_neg (by simp [filled])]
    exact returns_pure _
  | true =>
    rw [resolver.forwardText_of_iterable userMap iterable filled]
    exact (returns_mapM each).bind fun _ => returns_pure _

theorem raises_forwardText {userMap : List (Json × Json)} {before after : List Members}
    {message : Members} (iterable : Iterable (Json.field (py "msgs") payload))
    (split : messagesIn payload = before ++ message :: after)
    (earlier : ∀ other ∈ before, (resolver.messageLines nested userMap other).Returns)
    (raises : (resolver.messageLines nested userMap message).Raises kind) :
    (resolver.forwardText nested payload userMap).Raises kind := by
  have member : message ∈ messagesIn payload := by simp [split]
  rw [resolver.forwardText_of_iterable userMap iterable (truthy_of_listed member), split]
  exact (raises_mapM earlier raises after).bind _

theorem stuck_forwardText (userMap : List (Json × Json))
    (stuck : ¬ Iterable (Json.field (py "msgs") payload)) :
    (resolver.forwardText nested payload userMap).Raises Fault.IsCaught := by
  rw [forwardText, if_pos (truthy_of_stuck stuck), objectsIn_error stuck]
  exact raises_throw trivial

theorem resolve_of_iterable (room : Nat) (iterable : Iterable (Json.field (py "users") payload)) :
    resolver.resolveMultipleForwardText (room + 1) payload =
      ((listed (Json.field (py "users") payload)).mapM resolver.learnUser >>= fun learned =>
        resolver.forwardText (resolver.resolveMultipleForwardText room) payload
          (resolver.userMapOf learned)) := by
  rw [resolveMultipleForwardText, objectsIn_ok iterable]
  rfl

theorem returns_users (opens : Opens payload) :
    ((listed (Json.field (py "users") payload)).mapM resolver.learnUser).Returns :=
  returns_mapM fun user member => resolver.returns_learnUser (opens.known user member)

end Forward

theorem returns_forward {room : Nat} {payload : Members} (readable : Readable room payload) :
    (resolver.resolveMultipleForwardText room payload).Returns := by
  induction room generalizing payload with
  | zero => exact readable.elim
  | succ room ih =>
    obtain ⟨opens, fits⟩ := readable
    rw [resolver.resolve_of_iterable room opens.users]
    refine (resolver.returns_users opens).bind fun learned => ?_
    apply resolver.returns_forwardText opens.messages
    intro message member
    exact resolver.returns_messageLines (fits message member) fun inner readable => ih readable

theorem escapes_forward {room : Nat} {payload : Members} (breaks : Breaks room payload) :
    (resolver.resolveMultipleForwardText room payload).Raises Escapes := by
  induction room generalizing payload with
  | zero => exact raises_throw id
  | succ room ih =>
    obtain ⟨opens, before, message, after, split, fits, bursts⟩ := breaks
    rw [resolver.resolve_of_iterable room opens.users]
    refine (resolver.returns_users opens).bind_raises fun learned => ?_
    apply resolver.raises_forwardText opens.messages split
    · intro other member
      exact resolver.returns_messageLines (fits other member) fun inner => resolver.returns_forward
    · exact resolver.escapes_messageLines bursts fun inner breaks => ih breaks

theorem caught_forward {room : Nat} {payload : Members} (unreadable : ¬ Readable room payload)
    (whole : ¬ Breaks room payload) :
    (resolver.resolveMultipleForwardText room payload).Raises Fault.IsCaught := by
  induction room generalizing payload with
  | zero => exact absurd trivial whole
  | succ room ih =>
    by_cases users : Iterable (Json.field (py "users") payload)
    · rw [resolver.resolve_of_iterable room users]
      rcases all_or_first Known (listed (Json.field (py "users") payload)) with
        known | ⟨before, user, after, split, known, unknown⟩
      · refine (returns_mapM fun user member =>
          resolver.returns_learnUser (known user member)).bind_raises fun learned => ?_
        by_cases messages : Iterable (Json.field (py "msgs") payload)
        · have opens : Opens payload := ⟨users, known, messages⟩
          rcases all_or_first (Fits (Readable room)) (messagesIn payload) with
            fits | ⟨before, message, after, split, fits, unfit⟩
          · exact absurd ⟨opens, fits⟩ unreadable
          · apply resolver.raises_forwardText messages split
            · intro other member
              exact resolver.returns_messageLines (fits other member) fun inner =>
                resolver.returns_forward
            · have holds : ¬ Bursts (Breaks room) message := fun bursts =>
                whole ⟨opens, before, message, after, split, fits, bursts⟩
              exact resolver.caught_messageLines unfit holds fun inner unreadable whole =>
                ih unreadable whole
        · exact resolver.stuck_forwardText _ messages
      · rw [split]
        exact (raises_mapM (fun other member => resolver.returns_learnUser (known other member))
          (resolver.raises_learnUser unknown) after).bind _
    · rw [resolveMultipleForwardText, objectsIn_error users]
      exact raises_throw trivial

end Resolver

end OctoChannel.Inbound

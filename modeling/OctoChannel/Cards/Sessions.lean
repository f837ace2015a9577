import OctoChannel.Cards.Actions

namespace OctoChannel.Cards

open Foundation Identity

structure ClarifySession where
  multiSelect : Bool
  actionChoices : List (PyStr × PyStr)
  inputId : Option PyStr
  confirmActionId : Option PyStr
  otherActionId : PyStr

structure CardSession where
  messageId : PyStr
  bindingId : PyStr
  sessionKey : PyStr
  chatId : PyStr
  channelId : PyStr
  channelType : ChannelType
  requesterUid : PyStr
  card : Json
  plain : PyStr
  actionLabels : List (PyStr × PyStr)
  inputIds : List PyStr
  actionChannelIds : List PyStr
  maxInputTextBytes : Option Int
  maxInputsBytes : Option Int
  clarify : Option ClarifySession
  kind : PyStr

/-- A limit that is missing or zero has a default. -/
def limitOr (limit : Option Int) (default : Int) : Int :=
  match limit with
  | none => default
  | some value => if value = 0 then default else value

/-- The check of one input in `_action_matches_session`. -/
def inputMatches (session : CardSession) : List (PyStr × PyStr) → Except PyError Bool
  | [] => .ok true
  | (key, value) :: rest =>
    if !isCardId key || key ∉ session.inputIds then .ok false
    else
      match utf8Encode value with
      | none => .error .unicodeError
      | some bytes =>
        if (bytes.length : Int) > limitOr session.maxInputTextBytes 4096 then .ok false
        else inputMatches session rest

def channelMatches (action : CardAction) (session : CardSession) : Bool :=
  if action.channelType = .DM then
    action.channelId ∈
      if session.actionChannelIds = [] then [session.channelId] else session.actionChannelIds
  else action.channelId = session.channelId

/-- `action.data.get("_octo_binding")` is the binding of the session. -/
def bindingMatches (action : CardAction) (session : CardSession) : Bool :=
  match Json.field (py "_octo_binding") action.data with
  | .str binding => binding = session.bindingId
  | _ => false

/-- `_action_matches_session` -/
def actionMatchesSession (action : CardAction) (session : CardSession) : Except PyError Bool :=
  if action.messageId ≠ session.messageId ∨ !channelMatches action session ∨
      action.channelType ≠ session.channelType ∨ action.operatorUid ≠ session.requesterUid ∨
      action.actionId ∉ session.actionLabels.map Prod.fst ∨ !bindingMatches action session then
    .ok false
  else
    match inputMatches session action.inputs with
    | .error error => .error error
    | .ok false => .ok false
    | .ok true =>
      match utf8Encode
          (Json.obj (action.inputs.map fun input => (input.1, .str input.2))).sortKeys.print with
      | none => .error .unicodeError
      | some serialized =>
        .ok (decide ((serialized.length : Int) ≤ limitOr session.maxInputsBytes 16384))

/-- `str.split(",")` -/
def splitCommas : PyStr → List PyStr
  | [] => [[]]
  | character :: rest =>
    match splitCommas rest with
    | [] => [[character]]
    | first :: others =>
      if character = ch ',' then [] :: first :: others else (character :: first) :: others

/-- `selected_choices` of a clarify card finds none. -/
def noneSelected (clarify : ClarifySession) (action : CardAction) : Bool :=
  if action.actionId = clarify.otherActionId then true
  else if !clarify.multiSelect then
    clarify.actionChoices.all fun choice => choice.1 ≠ action.actionId
  else
    match clarify.inputId with
    | none => true
    | some inputId =>
      let raw := (Dict.lookup inputId action.inputs).getD []
      let selected := if raw = [] then [] else splitCommas raw
      some action.actionId ≠ clarify.confirmActionId || selected = [] ||
        selected.any (fun value => value = [] || strip value ≠ value) || !decide selected.Nodup ||
        selected.any (· ∉ clarify.actionChoices.map Prod.fst)

inductive CardState where
  | pending
  | processing
  | completed
  deriving DecidableEq

/-- `_CardSessionEntry`; times are readings of the monotonic and the wall clock. -/
structure CardEntry where
  session : CardSession
  expiresAt : Int
  wallExpiresAt : Int
  state : CardState
  claimedEventId : Option Int
  attemptEventId : Option Int
  dispatchAttempts : Int
  cardSeq : Nat

/-- A persisted binding; its session is one without clarify controls. -/
structure CardRecord where
  session : CardSession
  expiresAt : Int
  state : CardState
  claimedEventId : Option Int
  attemptEventId : Option Int
  dispatchAttempts : Int
  cardSeq : Nat

/-- `_entry_to_record` -/
def CardEntry.toRecord (entry : CardEntry) : Option CardRecord :=
  if entry.session.kind ≠ py "interactive" ∨ entry.session.clarify.isSome then none
  else if entry.wallExpiresAt = 0 then none
  else
    some ⟨entry.session, entry.wallExpiresAt, entry.state, entry.claimedEventId,
      entry.attemptEventId, entry.dispatchAttempts, entry.cardSeq⟩

theorem toRecord_some {entry : CardEntry} {record : CardRecord} (kept : entry.toRecord = some record) :
    record = ⟨entry.session, entry.wallExpiresAt, entry.state, entry.claimedEventId,
      entry.attemptEventId, entry.dispatchAttempts, entry.cardSeq⟩ := by
  unfold CardEntry.toRecord at kept
  split at kept
  · cases kept
  · split at kept
    · cases kept
    · exact (Option.some.inj kept).symm

structure CardRegistry where
  maxSessions : Nat
  ttlSeconds : Int
  maxDispatchAttempts : Nat
  entries : Dict PyStr CardEntry
  /-- What the attached store holds. -/
  persistence : Option (List CardRecord)

/-- What happens between the first look at the clock and the store write of one call:
the time that passes, and the exception of the write. -/
structure Moment where
  lapse : Nat
  failure : Option PyError

inductive ClaimStatus where
  | claimed
  | duplicate
  | missing
  deriving DecidableEq

structure CardClaim where
  status : ClaimStatus
  session : Option CardSession
  attempts : Int

/-- What `claim_edit` compares with the session. -/
structure EditArgs where
  messageId : PyStr
  sessionKey : PyStr
  channelId : PyStr
  channelType : ChannelType
  requesterUid : PyStr

namespace CardRegistry

variable (registry : CardRegistry)

/-- `_entry_locked`: an expired entry is dropped. -/
def entryLocked (now : Int) (messageId : PyStr) : Option CardEntry × CardRegistry :=
  match registry.entries.get? messageId with
  | none => (none, registry)
  | some entry =>
    if entry.expiresAt ≤ now then
      (none, { registry with entries := registry.entries.erase messageId })
    else (some entry, registry)

/-- `_prune_locked` -/
def prune (now : Int) : CardRegistry :=
  { registry with
    entries := registry.entries.filterKeys fun messageId =>
      (registry.entries.get? messageId).all fun entry => now < entry.expiresAt }

def records : List CardRecord := registry.entries.entries.filterMap fun entry => entry.2.toRecord

/-- `_persist` -/
def persist (now : Int) (moment : Moment) : Except PyError Unit × CardRegistry :=
  match registry.persistence with
  | none => (.ok (), registry)
  | some _ =>
    let pruned := registry.prune (now + moment.lapse)
    match moment.failure with
    | some error => (.error error, pruned)
    | none => (.ok (), { pruned with persistence := some pruned.records })

def put (messageId : PyStr) (entry : CardEntry) : CardRegistry :=
  { registry with entries := registry.entries.set messageId entry }

/-- A failed claim is taken back, unless its entry has been pruned meanwhile. -/
def takeBack (messageId : PyStr) (entry : CardEntry) : CardRegistry :=
  match registry.entries.get? messageId with
  | none => registry
  | some _ => registry.put messageId entry

/-- The entry as an event claims it. -/
def claimedBy (entry : CardEntry) (eventId : Int) : CardEntry :=
  { entry with
    state := .processing
    claimedEventId := some eventId
    attemptEventId := some eventId
    dispatchAttempts :=
      (if entry.attemptEventId = some eventId then entry.dispatchAttempts else 0) + 1 }

def claim (now : Int) (moment : Moment) (messageId : PyStr) (eventId : Int) :
    Except PyError CardClaim × CardRegistry :=
  match registry.entryLocked now messageId with
  | (none, registry) => (.ok ⟨.missing, none, 0⟩, registry)
  | (some entry, registry) =>
    if entry.state ≠ .pending then
      match registry.persist now moment with
      | (.error error, registry) => (.error error, registry)
      | (.ok _, registry) => (.ok ⟨.duplicate, some entry.session, 0⟩, registry)
    else
      let claimed := claimedBy entry eventId
      match (registry.put messageId claimed).persist now moment with
      | (.error error, registry) => (.error error, registry.takeBack messageId entry)
      | (.ok _, registry) =>
        (.ok ⟨.claimed, some entry.session, claimed.dispatchAttempts⟩, registry)

/-- The checks of `claim_edit` behind the lookup. -/
def editable (args : EditArgs) (entry : CardEntry) : Bool :=
  entry.state = .pending && entry.session.kind = py "interactive" &&
    entry.session.clarify.isNone && entry.session.sessionKey = args.sessionKey &&
    entry.session.channelId = args.channelId && entry.session.channelType = args.channelType &&
    entry.session.requesterUid = args.requesterUid

/-- The entry as an edit claims it. -/
def editedBy (entry : CardEntry) : CardEntry :=
  { entry with
    cardSeq := entry.cardSeq + 1
    state := .processing
    claimedEventId := some (-((entry.cardSeq + 1 : Nat) : Int)) }

def claimEdit (now : Int) (moment : Moment) (args : EditArgs) :
    Except PyError (Option Nat) × CardRegistry :=
  match registry.entryLocked now args.messageId with
  | (none, registry) => (.ok none, registry)
  | (some entry, registry) =>
    if !editable args entry then (.ok none, registry)
    else
      let claimed := editedBy entry
      match (registry.put args.messageId claimed).persist now moment with
      | (.error error, registry) => (.error error, registry.takeBack args.messageId entry)
      | (.ok _, registry) => (.ok (some claimed.cardSeq), registry)

/-- The claim of this id holds the entry. -/
def holds (entry : CardEntry) (eventId : Int) : Bool :=
  entry.state = .processing && entry.claimedEventId = some eventId

/-- The locked part of `release`; the store write follows. -/
def release (now : Int) (messageId : PyStr) (eventId : Int) : CardRegistry :=
  match registry.entryLocked now messageId with
  | (none, registry) => registry
  | (some entry, registry) =>
    if holds entry eventId then
      registry.put messageId { entry with state := .pending, claimedEventId := none }
    else registry

/-- The locked part of `complete`. -/
def complete (now : Int) (messageId : PyStr) (eventId : Int) : CardRegistry :=
  match registry.entryLocked now messageId with
  | (none, registry) => registry
  | (some entry, registry) =>
    if holds entry eventId then registry.put messageId { entry with state := .completed }
    else registry

variable {registry} {before after : CardRegistry} {messageId : PyStr} {entry : CardEntry} {now : Int}
  {moment : Moment} {eventId : Int}

/-- Entries may be gone, and nothing else has changed. -/
def Shrinks (before after : CardRegistry) : Prop :=
  ∀ messageId entry, after.entries.get? messageId = some entry →
    before.entries.get? messageId = some entry

theorem Shrinks.refl (registry : CardRegistry) : registry.Shrinks registry := fun _ _ found => found

theorem Shrinks.trans {middle : CardRegistry} (first : before.Shrinks middle)
    (second : middle.Shrinks after) : before.Shrinks after :=
  fun messageId entry found => first messageId entry (second messageId entry found)

theorem shrinks_prune (registry : CardRegistry) (now : Int) : registry.Shrinks (registry.prune now) := by
  intro messageId entry found
  rw [prune, Dict.get?_filterKeys] at found
  split at found
  · exact found
  · cases found

theorem shrinks_persist (registry : CardRegistry) (now : Int) (moment : Moment) :
    registry.Shrinks (registry.persist now moment).2 := by
  unfold persist
  split
  · exact .refl registry
  · dsimp only
    split
    · exact shrinks_prune registry _
    · exact shrinks_prune registry _

/-- An entry that the lookup returns is live, and the lookup changes nothing. -/
theorem entryLocked_some (found : (registry.entryLocked now messageId).1 = some entry) :
    registry.entries.get? messageId = some entry ∧ now < entry.expiresAt ∧
      (registry.entryLocked now messageId).2 = registry := by
  unfold entryLocked at found ⊢
  split at found
  · cases found
  · rename_i present
    split at found
    · cases found
    · rename_i live
      cases found
      rw [if_neg live]
      exact ⟨present, Int.not_le.mp live, rfl⟩

/-- An entry that the lookup does not return is not there afterwards. -/
theorem entryLocked_none (missing : (registry.entryLocked now messageId).1 = none) :
    (registry.entryLocked now messageId).2.entries.get? messageId = none := by
  unfold entryLocked at missing ⊢
  split at missing
  · rename_i absent
    exact absent
  · split at missing
    · rename_i expired
      rw [if_pos expired]
      exact Dict.get?_erase_self _ _
    · cases missing

theorem shrinks_entryLocked (registry : CardRegistry) (now : Int) (messageId : PyStr) :
    registry.Shrinks (registry.entryLocked now messageId).2 := by
  unfold entryLocked
  split
  · exact .refl registry
  · split
    · intro other entry found
      dsimp only at found
      rw [Dict.get?_erase] at found
      split at found
      · cases found
      · exact found
    · exact .refl registry

/-- The entry of one message is a new one, and the others are old ones. -/
def Changes (before after : CardRegistry) (messageId : PyStr) (entry : CardEntry) : Prop :=
  ∀ other found, after.entries.get? other = some found →
    (other = messageId ∧ found = entry) ∨
      (other ≠ messageId ∧ before.entries.get? other = some found)

theorem changes_put (registry : CardRegistry) (messageId : PyStr) (entry : CardEntry) :
    registry.Changes (registry.put messageId entry) messageId entry := by
  intro other found present
  rw [put, Dict.get?_set] at present
  split at present
  · rename_i same
    cases present
    exact .inl ⟨same.symm, rfl⟩
  · rename_i different
    exact .inr ⟨Ne.symm different, present⟩

theorem Changes.shrinks {middle : CardRegistry} (changes : before.Changes middle messageId entry)
    (shrinks : middle.Shrinks after) : before.Changes after messageId entry :=
  fun other found present => changes other found (shrinks other found present)

/-- A claim that was taken back has changed nothing. -/
theorem shrinks_takeBack (present : before.entries.get? messageId = some entry) {claimed : CardEntry}
    (changes : before.Changes after messageId claimed) :
    before.Shrinks (after.takeBack messageId entry) := by
  intro other found kept
  have old : ∀ known, after.entries.get? other = some known → other ≠ messageId →
      before.entries.get? other = some known := by
    intro known stored different
    rcases changes other known stored with ⟨same, -⟩ | ⟨-, earlier⟩
    · exact absurd same different
    · exact earlier
  unfold takeBack at kept
  by_cases same : other = messageId
  · subst same
    split at kept
    · rename_i gone
      rw [gone] at kept
      cases kept
    · rw [put, Dict.get?_set_self] at kept
      cases kept
      exact present
  · split at kept
    · exact old found kept same
    · rw [put, Dict.get?_set_of_ne _ _ (Ne.symm same)] at kept
      exact old found kept same

/-- A claim succeeds on a live pending entry, and otherwise changes no entry. -/
theorem claim_spec (registry : CardRegistry) (now : Int) (moment : Moment) (messageId : PyStr)
    (eventId : Int) :
    (registry.Shrinks (registry.claim now moment messageId eventId).2 ∧
      ∀ claim, (registry.claim now moment messageId eventId).1 = .ok claim →
        claim.status ≠ .claimed) ∨
    ∃ entry, registry.entries.get? messageId = some entry ∧ now < entry.expiresAt ∧
      entry.state = .pending ∧
      (registry.claim now moment messageId eventId).1 =
        .ok ⟨.claimed, some entry.session, (claimedBy entry eventId).dispatchAttempts⟩ ∧
      registry.Changes (registry.claim now moment messageId eventId).2 messageId
        (claimedBy entry eventId) := by
  have shrinks := shrinks_entryLocked registry now messageId
  rcases looked : registry.entryLocked now messageId with ⟨found, rest⟩
  unfold claim
  rw [looked] at shrinks ⊢
  cases found with
  | none => exact .inl ⟨shrinks, fun claim missing => by cases missing; simp⟩
  | some entry =>
    obtain ⟨present, live, unchanged⟩ := entryLocked_some (congrArg Prod.fst looked)
    rw [looked] at unchanged
    dsimp only at unchanged ⊢
    subst unchanged
    by_cases pending : entry.state = .pending
    · have changes := changes_put rest messageId (claimedBy entry eventId)
      have kept := changes.shrinks (shrinks_persist _ now moment)
      rw [if_neg (not_not.mpr pending)]
      rcases wrote : (rest.put messageId (claimedBy entry eventId)).persist now moment with
        ⟨error | _, after⟩
      · rw [wrote] at kept
        exact .inl ⟨shrinks_takeBack present kept, fun claim failed => by cases failed⟩
      · rw [wrote] at kept
        exact .inr ⟨entry, present, live, pending, rfl, kept⟩
    · rw [if_pos pending]
      have kept := shrinks_persist rest now moment
      rcases wrote : rest.persist now moment with ⟨error | _, after⟩
      · rw [wrote] at kept
        exact .inl ⟨kept, fun claim failed => by cases failed⟩
      · rw [wrote] at kept
        exact .inl ⟨kept, fun claim duplicate => by cases duplicate; simp⟩

/-- A claim that is answered without success is one of a missing entry, or of a live one
that is not pending, and then the store has been written. -/
theorem claim_answered {claim : CardClaim} (unclaimed : claim.status ≠ .claimed)
    (answered : (registry.claim now moment messageId eventId).1 = .ok claim) :
    claim = ⟨.missing, none, 0⟩ ∨ ∃ entry, registry.entries.get? messageId = some entry ∧
      now < entry.expiresAt ∧ entry.state ≠ .pending ∧
      claim = ⟨.duplicate, some entry.session, 0⟩ ∧
      registry.persist now moment = (.ok (), (registry.claim now moment messageId eventId).2) := by
  rcases looked : registry.entryLocked now messageId with ⟨found, rest⟩
  unfold CardRegistry.claim at answered ⊢
  rw [looked] at answered ⊢
  cases found with
  | none =>
    cases answered
    exact .inl rfl
  | some entry =>
    obtain ⟨present, live, unchanged⟩ := entryLocked_some (congrArg Prod.fst looked)
    rw [looked] at unchanged
    dsimp only at unchanged answered ⊢
    subst unchanged
    by_cases pending : entry.state = .pending
    · rw [if_neg (not_not.mpr pending)] at answered
      split at answered
      · cases answered
      · cases answered
        exact absurd rfl unclaimed
    · rw [if_pos pending] at answered ⊢
      right
      rcases wrote : rest.persist now moment with ⟨error | _, after⟩
      · rw [wrote] at answered
        cases answered
      · rw [wrote] at answered
        cases answered
        exact ⟨entry, present, live, pending, rfl, rfl⟩

/-- What the store must hold of an entry is there. -/
def Durable (registry : CardRegistry) (messageId : PyStr) : Prop :=
  ∀ records, registry.persistence = some records → ∀ entry,
    registry.entries.get? messageId = some entry → ∀ record, entry.toRecord = some record →
      record ∈ records

theorem durable_persist (wrote : registry.persist now moment = (.ok (), after))
    (messageId : PyStr) : after.Durable messageId := by
  intro records stored entry found record kept
  unfold persist at wrote
  split at wrote
  · rename_i detached
    cases wrote
    cases detached.symm.trans stored
  · dsimp only at wrote
    split at wrote
    · cases wrote
    · cases wrote
      cases stored
      apply List.mem_filterMap.mpr
      exact ⟨(messageId, entry), (Dict.mem_entries_iff _ _ _).mpr found, kept⟩

/-- `claim_edit` succeeds on a live pending entry, and otherwise changes no entry. -/
theorem claimEdit_spec (registry : CardRegistry) (now : Int) (moment : Moment) (args : EditArgs) :
    (registry.Shrinks (registry.claimEdit now moment args).2 ∧
      ∀ cardSeq, (registry.claimEdit now moment args).1 ≠ .ok (some cardSeq)) ∨
    ∃ entry, registry.entries.get? args.messageId = some entry ∧ now < entry.expiresAt ∧
      entry.state = .pending ∧
      (registry.claimEdit now moment args).1 = .ok (some (editedBy entry).cardSeq) ∧
      registry.Changes (registry.claimEdit now moment args).2 args.messageId (editedBy entry) := by
  have shrinks := shrinks_entryLocked registry now args.messageId
  rcases looked : registry.entryLocked now args.messageId with ⟨found, rest⟩
  unfold claimEdit
  rw [looked] at shrinks ⊢
  cases found with
  | none => exact .inl ⟨shrinks, fun cardSeq missing => by cases missing⟩
  | some entry =>
    obtain ⟨present, live, unchanged⟩ := entryLocked_some (congrArg Prod.fst looked)
    rw [looked] at unchanged
    dsimp only at unchanged ⊢
    subst unchanged
    by_cases allowed : editable args entry = true
    · have pending : entry.state = .pending := by
        simp only [editable, Bool.and_eq_true, decide_eq_true_eq] at allowed
        exact allowed.1.1.1.1.1.1
      have changes := changes_put rest args.messageId (editedBy entry)
      have kept := changes.shrinks (shrinks_persist _ now moment)
      rw [allowed]
      rcases wrote : (rest.put args.messageId (editedBy entry)).persist now moment with
        ⟨error | _, after⟩
      · rw [wrote] at kept
        exact .inl ⟨shrinks_takeBack present kept, fun cardSeq failed => by cases failed⟩
      · rw [wrote] at kept
        exact .inr ⟨entry, present, live, pending, rfl, kept⟩
    · rw [Bool.not_eq_true] at allowed
      rw [allowed]
      exact .inl ⟨shrinks, fun cardSeq refused => by cases refused⟩

/-- Nothing has happened but that entries which had expired by then may be gone. -/
structure Untouched (time : Int) (before after : CardRegistry) : Prop where
  shrinks : before.Shrinks after
  stays : ∀ messageId entry, before.entries.get? messageId = some entry →
    time < entry.expiresAt → after.entries.get? messageId = some entry
  stored : after.persistence = before.persistence

theorem untouched_prune (registry : CardRegistry) (now : Int) :
    registry.Untouched now (registry.prune now) where
  shrinks := shrinks_prune registry now
  stays messageId entry found live := by
    rw [prune, Dict.get?_filterKeys, found, Option.all_some, decide_eq_true live]
    rfl
  stored := rfl

/-- A write that raises has only pruned. -/
theorem persist_raises {error : PyError} (wrote : registry.persist now moment = (.error error, after)) :
    after = registry.prune (now + moment.lapse) := by
  unfold persist at wrote
  split at wrote
  · cases wrote
  · dsimp only at wrote
    split at wrote
    · cases wrote
      rfl
    · cases wrote

/-- A claim that its write has failed is taken back to the entry as it was. -/
theorem untouched_takeBack {time : Int} {claimed : CardEntry}
    (present : registry.entries.get? messageId = some entry)
    (same : claimed.expiresAt = entry.expiresAt) :
    registry.Untouched time
      (((registry.put messageId claimed).prune time).takeBack messageId entry) where
  shrinks := shrinks_takeBack present
    ((changes_put registry messageId claimed).shrinks (shrinks_prune _ time))
  stays other kept found live := by
    have pruned := (untouched_prune (registry.put messageId claimed) time).stays other
    unfold takeBack
    by_cases own : other = messageId
    · subst own
      cases present.symm.trans found
      rw [pruned claimed (Dict.get?_set_self _ _ _) (same ▸ live)]
      exact Dict.get?_set_self _ _ _
    · have still := pruned kept ((Dict.get?_set_of_ne _ _ (Ne.symm own)).trans found) live
      split
      · exact still
      · exact (Dict.get?_set_of_ne _ _ (Ne.symm own)).trans still
  stored := by
    unfold takeBack
    split <;> rfl

/-- A claim that raises has changed nothing. -/
theorem claim_raises {error : PyError}
    (raised : (registry.claim now moment messageId eventId).1 = .error error) :
    registry.Untouched (now + moment.lapse) (registry.claim now moment messageId eventId).2 := by
  rcases looked : registry.entryLocked now messageId with ⟨found, rest⟩
  unfold claim at raised ⊢
  rw [looked] at raised ⊢
  cases found with
  | none => cases raised
  | some entry =>
    obtain ⟨present, -, unchanged⟩ := entryLocked_some (congrArg Prod.fst looked)
    rw [looked] at unchanged
    dsimp only at unchanged raised ⊢
    subst unchanged
    by_cases pending : entry.state = .pending
    · rw [if_neg (not_not.mpr pending)] at raised ⊢
      rcases wrote : (rest.put messageId (claimedBy entry eventId)).persist now moment with
        ⟨failed | _, after⟩
      · rw [persist_raises wrote]
        exact untouched_takeBack present rfl
      · rw [wrote] at raised
        cases raised
    · rw [if_pos pending] at raised ⊢
      rcases wrote : rest.persist now moment with ⟨failed | _, after⟩
      · rw [persist_raises wrote]
        exact untouched_prune rest _
      · rw [wrote] at raised
        cases raised

/-- An edit's claim that raises has changed nothing. -/
theorem claimEdit_raises {args : EditArgs} {error : PyError}
    (raised : (registry.claimEdit now moment args).1 = .error error) :
    registry.Untouched (now + moment.lapse) (registry.claimEdit now moment args).2 := by
  rcases looked : registry.entryLocked now args.messageId with ⟨found, rest⟩
  unfold claimEdit at raised ⊢
  rw [looked] at raised ⊢
  cases found with
  | none => cases raised
  | some entry =>
    obtain ⟨present, -, unchanged⟩ := entryLocked_some (congrArg Prod.fst looked)
    rw [looked] at unchanged
    dsimp only at unchanged raised ⊢
    subst unchanged
    by_cases allowed : editable args entry = true
    · rw [allowed] at raised ⊢
      rcases wrote : (rest.put args.messageId (editedBy entry)).persist now moment with
        ⟨failed | _, after⟩
      · rw [persist_raises wrote]
        exact untouched_takeBack present rfl
      · rw [wrote] at raised
        cases raised
    · rw [Bool.not_eq_true] at allowed
      rw [allowed] at raised
      cases raised

/-- `release` changes at most the entry that this claim holds. -/
theorem release_spec (registry : CardRegistry) (now : Int) (messageId : PyStr) (eventId : Int) :
    registry.Shrinks (registry.release now messageId eventId) ∨
    ∃ entry, registry.entries.get? messageId = some entry ∧ holds entry eventId = true ∧
      registry.Changes (registry.release now messageId eventId) messageId
        { entry with state := .pending, claimedEventId := none } := by
  have shrinks := shrinks_entryLocked registry now messageId
  rcases looked : registry.entryLocked now messageId with ⟨found, rest⟩
  unfold release
  rw [looked] at shrinks ⊢
  cases found with
  | none => exact .inl shrinks
  | some entry =>
    obtain ⟨present, -, unchanged⟩ := entryLocked_some (congrArg Prod.fst looked)
    rw [looked] at unchanged
    dsimp only at unchanged ⊢
    subst unchanged
    by_cases held : holds entry eventId = true
    · rw [if_pos held]
      exact .inr ⟨entry, present, held, changes_put rest messageId _⟩
    · rw [if_neg held]
      exact .inl (.refl rest)

/-- What is left under the message after `release` is not held by this claim. -/
private theorem release_unheld
    (found : (registry.release now messageId eventId).entries.get? messageId = some entry) :
    holds entry eventId = false := by
  have expired := @entryLocked_none registry messageId now
  rcases looked : registry.entryLocked now messageId with ⟨answer, rest⟩
  unfold release at found
  rw [looked] at expired found
  cases answer with
  | none => cases (expired rfl).symm.trans found
  | some old =>
    obtain ⟨present, -, unchanged⟩ := entryLocked_some (congrArg Prod.fst looked)
    rw [looked] at unchanged
    dsimp only at unchanged found
    subst unchanged
    split at found
    · rw [put, Dict.get?_set_self] at found
      cases found
      rfl
    · rename_i unheld
      cases present.symm.trans found
      exact Bool.not_eq_true _ ▸ unheld

/-- A card that is processing after `release` was so before, under another claim. -/
theorem release_processing {other : PyStr}
    (found : (registry.release now messageId eventId).entries.get? other = some entry)
    (processing : entry.state = .processing) :
    registry.entries.get? other = some entry ∧ (other = messageId → holds entry eventId = false) := by
  refine ⟨?_, fun same => by subst same; exact release_unheld found⟩
  rcases release_spec registry now messageId eventId with shrinks | ⟨old, -, -, changes⟩
  · exact shrinks other entry found
  · rcases changes other entry found with ⟨-, new⟩ | ⟨-, earlier⟩
    · subst new
      cases processing
    · exact earlier

/-- `complete` changes exactly the live entry that this claim holds. -/
theorem complete_spec (registry : CardRegistry) (now : Int) (messageId : PyStr) (eventId : Int) :
    (registry.Shrinks (registry.complete now messageId eventId) ∧
      ∀ entry, (registry.complete now messageId eventId).entries.get? messageId = some entry →
        holds entry eventId = false) ∨
    ∃ entry, registry.entries.get? messageId = some entry ∧ holds entry eventId = true ∧
      registry.Changes (registry.complete now messageId eventId) messageId
        { entry with state := .completed } := by
  have shrinks := shrinks_entryLocked registry now messageId
  have expired := @entryLocked_none registry messageId now
  rcases looked : registry.entryLocked now messageId with ⟨found, rest⟩
  unfold complete
  rw [looked] at shrinks expired ⊢
  cases found with
  | none => exact .inl ⟨shrinks, fun entry found => by cases (expired rfl).symm.trans found⟩
  | some entry =>
    obtain ⟨present, -, unchanged⟩ := entryLocked_some (congrArg Prod.fst looked)
    rw [looked] at unchanged
    dsimp only at unchanged ⊢
    subst unchanged
    by_cases held : holds entry eventId = true
    · rw [if_pos held]
      exact .inr ⟨entry, present, held, changes_put rest messageId _⟩
    · rw [if_neg held]
      refine .inl ⟨.refl rest, ?_⟩
      intro other same
      cases present.symm.trans same
      exact Bool.not_eq_true _ ▸ held

/-- A card that is processing after `complete` was so before, under another claim. -/
theorem complete_processing {other : PyStr}
    (found : (registry.complete now messageId eventId).entries.get? other = some entry)
    (processing : entry.state = .processing) :
    registry.entries.get? other = some entry ∧ (other = messageId → holds entry eventId = false) := by
  rcases complete_spec registry now messageId eventId with ⟨shrinks, free⟩ | ⟨old, -, -, changes⟩
  · refine ⟨shrinks other entry found, fun same => ?_⟩
    subst same
    exact free entry found
  · rcases changes other entry found with ⟨-, new⟩ | ⟨different, earlier⟩
    · subst new
      cases processing
    · exact ⟨earlier, fun same => absurd same different⟩

end CardRegistry

end OctoChannel.Cards

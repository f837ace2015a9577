import OctoChannel.Cards.Bindings

namespace OctoChannel.Cards

open Foundation Identity

/-- The identity that `refresh_reasoning` compares; whether the clarify controls are the
same ones is given. -/
def sameReasoning (existing session : CardSession) (sameClarify : Bool) : Bool :=
  existing.bindingId = session.bindingId && existing.sessionKey = session.sessionKey &&
    existing.chatId = session.chatId && existing.channelId = session.channelId &&
    existing.channelType = session.channelType && existing.requesterUid = session.requesterUid &&
    existing.actionChannelIds = session.actionChannelIds &&
    existing.inputIds = session.inputIds && sameClarify && existing.kind = session.kind

namespace CardRegistry

variable (registry : CardRegistry)

def refreshReasoning (now wall : Int) (session : CardSession) (sameClarify : Bool) :
    Except PyError Unit × CardRegistry :=
  if !boundedMessageId session.messageId || session.kind ≠ py "reasoning" then
    (.error (.valueError "invalid reasoning card session"), registry)
  else
    let pruned := registry.prune now
    match pruned.entries.get? session.messageId with
    | none => (.error (.valueError "reasoning card session is not pending"), pruned)
    | some entry =>
      if entry.state ≠ .pending then
        (.error (.valueError "reasoning card session is not pending"), pruned)
      else if !sameReasoning entry.session session sameClarify then
        (.error (.valueError "reasoning card session identity mismatch"), pruned)
      else
        (.ok (), (pruned.drop session.messageId).put session.messageId
          { entry with
            session := session
            expiresAt := now + registry.ttlSeconds
            wallExpiresAt := wall + registry.ttlSeconds })

def peek (now : Int) (messageId : PyStr) : Option CardSession × CardRegistry :=
  match registry.entryLocked now messageId with
  | (found, registry) => (found.map CardEntry.session, registry)

def clear (now : Int) (moment : Moment) : Except PyError Unit × CardRegistry :=
  CardRegistry.persist { registry with entries := .empty } now moment

end CardRegistry

/-- Every operation of the registry; `set_persistence` takes what the store holds. -/
inductive BindingEvent where
  | call (event : ShelfEvent)
  | refreshReasoning (session : CardSession) (sameClarify : Bool)
  | peek (messageId : PyStr)
  | clear (moment : Moment)
  | setPersistence (persistence : Option (List CardRecord))

def bindingStep (shelf : CardShelf) : BindingEvent → CardShelf
  | .call event => shelfStep shelf event
  | .refreshReasoning session sameClarify =>
    { shelf with
      registry := (shelf.registry.refreshReasoning shelf.now shelf.wall session sameClarify).2 }
  | .peek messageId => { shelf with registry := (shelf.registry.peek shelf.now messageId).2 }
  | .clear moment => shelf.put moment (shelf.registry.clear shelf.now moment).2
  | .setPersistence persistence => { shelf with registry := { shelf.registry with persistence } }

def bindingMachine (start : CardShelf) : Machine CardShelf BindingEvent := ⟨start, bindingStep⟩

/-- The entry is one of this message, whose id is within the bound. -/
structure KeyedEntry (messageId : PyStr) (entry : CardEntry) : Prop where
  same : entry.session.messageId = messageId
  bounded : boundedMessageId messageId = true

namespace CardRegistry

variable {registry : CardRegistry}

def Keyed (registry : CardRegistry) : Prop :=
  ∀ messageId entry, registry.entries.get? messageId = some entry → KeyedEntry messageId entry

theorem keyed_of_shrinks {before after : CardRegistry} (keyed : before.Keyed)
    (shrinks : before.Shrinks after) : after.Keyed :=
  fun messageId entry found => keyed messageId entry (shrinks messageId entry found)

theorem Keyed.put (keyed : registry.Keyed) {messageId : PyStr} {entry : CardEntry}
    (known : KeyedEntry messageId entry) : (registry.put messageId entry).Keyed := by
  intro other found present
  rcases changes_put registry messageId entry other found present with ⟨same, new⟩ | ⟨-, earlier⟩
  · rw [same, new]
    exact known
  · exact keyed other found earlier

private theorem inclusive_keyed : Inclusive Keyed KeyedEntry where
  known _ messageId entry keyed found := keyed messageId entry found
  put _ _ _ keyed known := keyed.put known
  filter registry keep keyed := by
    intro messageId entry found
    dsimp only at found
    rw [Dict.get?_filterKeys] at found
    split at found
    · exact keyed messageId entry found
    · cases found
  write _ keyed _ := keyed
  claimed _ _ _ known := ⟨known.same, known.bounded⟩
  edited _ _ known := ⟨known.same, known.bounded⟩
  released _ _ known := ⟨known.same, known.bounded⟩
  completed _ _ known := ⟨known.same, known.bounded⟩
  numbered _ _ known := ⟨known.same, known.bounded⟩
  registered registry now wall session enrolled := by
    rcases enroll_spec registry now wall session with
      ⟨-, ⟨message, raised⟩, -⟩ | ⟨admissible, -⟩
    · rw [raised] at enrolled
      cases enrolled
    · exact ⟨rfl, admissible.bounded⟩

/-- A refresh puts the session under its own message or only drops what has expired. -/
theorem refreshReasoning_cases (registry : CardRegistry) (now wall : Int) (session : CardSession)
    (sameClarify : Bool) :
    (registry.refreshReasoning now wall session sameClarify).2 = registry ∨
    (registry.refreshReasoning now wall session sameClarify).2 = registry.prune now ∨
    ∃ entry, (registry.prune now).entries.get? session.messageId = some entry ∧
      boundedMessageId session.messageId = true ∧
      (registry.refreshReasoning now wall session sameClarify).2 =
        ((registry.prune now).drop session.messageId).put session.messageId
          { entry with
            session := session
            expiresAt := now + registry.ttlSeconds
            wallExpiresAt := wall + registry.ttlSeconds } := by
  unfold refreshReasoning
  split
  · exact .inl rfl
  · rename_i valid
    dsimp only
    split
    · exact .inr (.inl rfl)
    · rename_i entry found
      split
      · exact .inr (.inl rfl)
      · split
        · exact .inr (.inl rfl)
        · refine .inr (.inr ⟨entry, found, ?_, rfl⟩)
          simp only [Bool.or_eq_true, not_or] at valid
          simpa using valid.1

private theorem keyed_refreshReasoning (keyed : registry.Keyed) (now wall : Int)
    (session : CardSession)
    (sameClarify : Bool) : (registry.refreshReasoning now wall session sameClarify).2.Keyed := by
  have pruned := keyed_of_shrinks keyed (shrinks_prune registry now)
  rcases refreshReasoning_cases registry now wall session sameClarify with
    same | same | ⟨entry, -, bounded, same⟩
  · rw [same]
    exact keyed
  · rw [same]
    exact pruned
  · rw [same]
    exact (keyed_of_shrinks pruned (shrinks_drop _ session.messageId)).put ⟨rfl, bounded⟩

private theorem size_refreshReasoning_le (registry : CardRegistry) (now wall : Int)
    (session : CardSession)
    (sameClarify : Bool) :
    (registry.refreshReasoning now wall session sameClarify).2.entries.size ≤
      registry.entries.size := by
  have pruned := (shrinks_prune registry now).size_le
  rcases refreshReasoning_cases registry now wall session sameClarify with
    same | same | ⟨entry, found, -, same⟩
  · rw [same]
  · rw [same]
    exact pruned
  · have dropped := shrinks_drop (registry.prune now) session.messageId
    rw [same]
    refine Nat.le_trans (size_le_of_known ?_) pruned
    intro other known present
    rcases changes_put _ session.messageId _ other known present with
      ⟨equal, -⟩ | ⟨-, earlier⟩
    · rw [equal, found]
      rfl
    · rw [dropped other known earlier]
      rfl

end CardRegistry

/-- What every operation keeps: each entry under its own message, and no more entries than
the bound, which stays the same. -/
structure Ordered (maxSessions : Nat) (registry : CardRegistry) : Prop where
  keyed : registry.Keyed
  bound : registry.maxSessions = maxSessions
  fits : registry.entries.size ≤ maxSessions

open CardRegistry in
theorem Ordered.step {maxSessions : Nat} {shelf : CardShelf}
    (ordered : Ordered maxSessions shelf.registry) (event : BindingEvent) :
    Ordered maxSessions (bindingStep shelf event).registry := by
  obtain ⟨keyed, bound, fits⟩ := ordered
  have smaller : ∀ {registry : CardRegistry}, registry.entries.size ≤ shelf.registry.entries.size →
      registry.entries.size ≤ maxSessions := fun smaller => smaller.trans fits
  cases event with
  | call event =>
    refine ⟨?_, ?_, ?_⟩
    · apply inclusive_keyed.shelfStep keyed
      intro record wall now entry read
      obtain ⟨-, bounded, -, same⟩ := toEntry_some read
      rw [same]
      exact ⟨rfl, bounded⟩
    · have settings := (inclusive_settings shelf.registry).shelfStep (.refl _)
        (fun _ _ _ _ _ => trivial) event
      exact settings.maxSessions.trans bound
    · rw [← bound] at fits ⊢
      exact size_shelfStep_le shelf event fits
  | refreshReasoning session sameClarify =>
    refine ⟨keyed_refreshReasoning keyed _ _ session sameClarify, ?_,
      smaller (size_refreshReasoning_le _ _ _ session sameClarify)⟩
    rcases refreshReasoning_cases shelf.registry shelf.now shelf.wall session sameClarify with
      same | same | ⟨entry, -, -, same⟩
    all_goals
      show (shelf.registry.refreshReasoning _ _ session sameClarify).2.maxSessions = maxSessions
      rw [same]
      exact bound
  | peek messageId =>
    have shrinks := shrinks_entryLocked shelf.registry shelf.now messageId
    refine ⟨keyed_of_shrinks keyed shrinks, ?_, smaller shrinks.size_le⟩
    exact ((inclusive_settings shelf.registry).entryLocked (.refl _) _ messageId).maxSessions.trans
      bound
  | clear moment =>
    have shrinks := shrinks_persist { shelf.registry with entries := .empty } shelf.now moment
    have emptied : shelf.registry.Shrinks { shelf.registry with entries := .empty } :=
      fun messageId entry found => by cases found
    refine ⟨keyed_of_shrinks keyed (emptied.trans shrinks), ?_,
      smaller (emptied.trans shrinks).size_le⟩
    have settings : shelf.registry.SameSettings { shelf.registry with entries := .empty } :=
      ⟨rfl, rfl, rfl, rfl⟩
    exact ((inclusive_settings shelf.registry).persist settings _ moment).maxSessions.trans bound
  | setPersistence persistence => exact ⟨keyed, bound, fits⟩

private theorem ordered_run (maxSessions : Nat) (ttlSeconds : Int) (maxDispatchAttempts : Nat)
    (persistence : Option (List CardRecord)) (now wall : Int) (events : List BindingEvent) :
    Ordered (max 1 maxSessions) ((bindingMachine (emptyShelf maxSessions ttlSeconds
      maxDispatchAttempts persistence now wall)).run events).registry := by
  apply @Machine.invariant_of_steps _ _ (bindingMachine (emptyShelf maxSessions ttlSeconds
    maxDispatchAttempts persistence now wall)) fun shelf => Ordered (max 1 maxSessions) shelf.registry
  · exact ⟨fun messageId entry found => (by cases found), rfl, Nat.zero_le _⟩
  · exact fun shelf event ordered => ordered.step event

section Records

variable {clock : WallClock} {coercions : Coercions} {runtime : Json.Runtime} {record : CardRecord}

/-- The integers that a record holds. -/
def CardRecord.integers (record : CardRecord) : List Int :=
  record.session.maxInputTextBytes.toList ++ record.session.maxInputsBytes.toList ++
    record.claimedEventId.toList ++ record.attemptEventId.toList ++
    [record.dispatchAttempts, record.cardSeq]

/-- JSON and the clock's floats can represent the record: its card is a dictionary that
JSON reads back, its integers are within the digits of `int`, and its deadline is one that
prints and reads as a float. -/
structure CardRecord.Representable (clock : WallClock) (runtime : Json.Runtime)
    (record : CardRecord) : Prop where
  object : ∃ members, record.session.card = .obj members
  card : Json.ReadsBack runtime record.session.card
  labels : (record.session.actionLabels.map Prod.fst).Nodup
  integers : ∀ value ∈ record.integers,
    (Json.printNat value.natAbs).length ≤ Json.maxIntDigits
  printed : Json.ReadsBack runtime (.float (clock.text record.expiresAt))
  timed : clock.time (.float (clock.text record.expiresAt)) = some record.expiresAt

theorem nodup_fields (clock : WallClock) (record : CardRecord) :
    ((record.fields clock).map Prod.fst).Nodup := by
  have names : (record.fields clock).map Prod.fst = ["message_id", "binding_id", "session_key",
      "chat_id", "channel_id", "requester_uid", "plain", "kind", "channel_type", "card",
      "action_labels", "input_ids", "action_channel_ids", "max_input_text_bytes",
      "max_inputs_bytes", "expires_at", "state", "claimed_event_id", "attempt_event_id",
      "dispatch_attempts", "card_seq"].map py := rfl
  rw [names]
  apply List.Nodup.map
  · exact fun first second same => py_inj.mp same
  · decide

private theorem readsBack_optionalJson {value : Option Int}
    (short : ∀ number ∈ value.toList,
      (Json.printNat number.natAbs).length ≤ Json.maxIntDigits) :
    Json.ReadsBack runtime (optionalJson value) := by
  cases value with
  | none => exact .null
  | some number => exact .int (short number List.mem_cons_self)

theorem readsBack_strsJson (texts : List PyStr) : Json.ReadsBack runtime (strsJson texts) := by
  apply Json.ReadsBack.arr
  intro item member
  obtain ⟨text, -, same⟩ := List.mem_map.mp member
  rw [← same]
  exact .str text

private theorem readsBack_labelsJson {labels : List (PyStr × PyStr)}
    (nodup : (labels.map Prod.fst).Nodup) :
    Json.ReadsBack runtime (labelsJson labels) := by
  apply Json.ReadsBack.obj
  · rw [List.map_map]
    exact nodup
  · intro item member
    obtain ⟨label, -, same⟩ := List.mem_map.mp member
    rw [← same]
    exact .str label.2

private theorem CardRecord.Representable.readsBack
    (representable : record.Representable clock runtime) :
    Json.ReadsBack runtime (record.toJson clock) := by
  have short : ∀ value ∈ record.integers, Json.ReadsBack runtime (.int value) :=
    fun value member => .int (representable.integers value member)
  have optional : ∀ value : Option Int, value.toList ⊆ record.integers →
      Json.ReadsBack runtime (optionalJson value) := fun value listed =>
    readsBack_optionalJson fun number member => representable.integers number (listed member)
  have code : Json.ReadsBack runtime (.int record.session.channelType.code) := by
    cases record.session.channelType <;> exact .int (by decide)
  apply Json.ReadsBack.obj (nodup_fields clock record)
  simp only [CardRecord.fields, List.forall_mem_cons]
  refine ⟨.str _, .str _, .str _, .str _, .str _, .str _, .str _, .str _, code,
    representable.card, readsBack_labelsJson representable.labels, readsBack_strsJson _,
    readsBack_strsJson _, ?_, ?_, representable.printed, .str _, ?_, ?_, ?_, ?_, by simp⟩
  · exact optional _ (by intro number member; simp [CardRecord.integers, member])
  · exact optional _ (by intro number member; simp [CardRecord.integers, member])
  · exact optional _ (by intro number member; simp [CardRecord.integers, member])
  · exact optional _ (by intro number member; simp [CardRecord.integers, member])
  · exact short _ (by simp [CardRecord.integers])
  · exact short _ (by simp [CardRecord.integers])

@[simp] theorem ofJson?_text (state : CardState) : CardState.ofJson? (.str state.text) = some state := by
  cases state <;> simp [CardState.ofJson?, CardState.text, py_inj]

@[simp] theorem optionalInt_optionalJson (value : Option Int) :
    optionalInt (optionalJson value) = some value := by
  cases value <;> rfl

@[simp] theorem sortKeys_optionalJson (value : Option Int) :
    (optionalJson value).sortKeys = optionalJson value := by
  cases value <;> rfl

@[simp] theorem sortKeys_strsJson (texts : List PyStr) :
    (strsJson texts).sortKeys = strsJson texts := by
  rw [strsJson, Json.sortKeys_arr, List.map_map]
  rfl

@[simp] theorem str_str (text : PyStr) : coercions.str (.str text) = text := rfl

@[simp] theorem int_int (value : Int) : coercions.int (.int value) = some value := rfl

@[simp] theorem dict_obj (members : List (PyStr × Json)) :
    coercions.dict (.obj members) = some members := rfl

@[simp] theorem dict_labelsJson (labels : List (PyStr × PyStr)) :
    coercions.dict (labelsJson labels) =
      some (labels.map fun label => (label.1, .str label.2)) := rfl

@[simp] theorem strs_strsJson (texts : List PyStr) :
    coercions.strs (strsJson texts) = some texts := by
  have same : coercions.str ∘ Json.str = id := rfl
  rw [strsJson, Coercions.strs, List.map_map, same, List.map_id]

/-- The labels in the order in which the file lists them. -/
def sortLabels (labels : List (PyStr × PyStr)) : List (PyStr × PyStr) :=
  labels.insertionSort fun first second => first.1 ≤ second.1

@[simp] theorem sortKeys_labelsJson (labels : List (PyStr × PyStr)) :
    (labelsJson labels).sortKeys = labelsJson (sortLabels labels) := by
  rw [labelsJson, Json.sortKeys_obj, List.map_map, labelsJson, sortLabels]
  apply congrArg
  symm
  apply List.map_insertionSort (fun first second : PyStr × PyStr => first.1 ≤ second.1) Json.keyLE
  exact fun _ _ _ _ => Iff.rfl

/-- The record as the file orders its dictionaries. -/
def CardRecord.sorted (record : CardRecord) : CardRecord :=
  { record with
    session := { record.session with
      card := record.session.card.sortKeys
      actionLabels := sortLabels record.session.actionLabels } }

/-- The record as the file orders it. -/
def CardRecord.filed (clock : WallClock) (record : CardRecord) : List (PyStr × Json) :=
  ((record.fields clock).map fun field => (field.1, field.2.sortKeys)).insertionSort Json.keyLE

private theorem sortKeys_toJson (clock : WallClock) (record : CardRecord) :
    (record.toJson clock).sortKeys = .obj (record.filed clock) :=
  Json.sortKeys_obj (record.fields clock)

theorem lookup_filed (clock : WallClock) (record : CardRecord) (name : PyStr) :
    Dict.lookup name (record.filed clock) =
      (Dict.lookup name (record.fields clock)).map Json.sortKeys :=
  Json.lookup_sorted name (nodup_fields clock record)

/-- The session that is read back has its dictionaries in the order of the file and no
clarify controls. -/
private theorem sessionFromRecord_filed (coercions : Coercions)
    (representable : record.Representable clock runtime) :
    sessionFromRecord coercions (record.filed clock) =
      if boundedMessageId record.session.messageId then
        some { record.sorted.session with clarify := none }
      else none := by
  obtain ⟨members, object⟩ := representable.object
  have labels : (fun label : PyStr × Json => (label.1, coercions.str label.2)) ∘
      (fun label : PyStr × PyStr => (label.1, Json.str label.2)) = id := rfl
  unfold sessionFromRecord
  simp only [lookup_filed]
  by_cases bounded : boundedMessageId record.session.messageId = true
  · simp [CardRecord.fields, Dict.lookup, py_inj, Json.sortKeys, bounded, object, labels,
      CardRecord.sorted]
  · simp [CardRecord.fields, Dict.lookup, Json.sortKeys, bounded]

theorem expiryOf_filed (representable : record.Representable clock runtime) :
    expiryOf clock (Dict.lookup (py "expires_at") (record.filed clock)) =
      some record.expiresAt := by
  have timed := representable.timed
  rw [lookup_filed]
  simpa [CardRecord.fields, Dict.lookup, py_inj, Json.sortKeys, expiryOf] using timed

/-- What `_entry_from_record` makes of a record in the file. -/
private theorem entryFromRecord_filed (coercions : Coercions)
    (representable : record.Representable clock runtime) (wallNow monoNow : Int) :
    entryFromRecord clock coercions wallNow monoNow (.obj (record.filed clock)) =
      record.sorted.toEntry wallNow monoNow := by
  have state : (Dict.lookup (py "state") (record.filed clock)).bind CardState.ofJson? =
      some record.state := by
    rw [lookup_filed]
    simp [CardRecord.fields, Dict.lookup, py_inj, Json.sortKeys]
  have attempts : intOr 0 (Dict.lookup (py "dispatch_attempts") (record.filed clock)) =
      some record.dispatchAttempts := by
    rw [lookup_filed]
    simp [CardRecord.fields, Dict.lookup, py_inj, Json.sortKeys, intOr]
  have cardSeq : intOr 0 (Dict.lookup (py "card_seq") (record.filed clock)) =
      some (record.cardSeq : Int) := by
    rw [lookup_filed]
    simp [CardRecord.fields, Dict.lookup, py_inj, Json.sortKeys, intOr]
  have attempt : optionalInt ((Dict.lookup (py "attempt_event_id") (record.filed clock)).getD
      .null) = some record.attemptEventId := by
    rw [lookup_filed]
    simp [CardRecord.fields, Dict.lookup, py_inj]
  unfold entryFromRecord CardRecord.toEntry
  simp only [expiryOf_filed representable, state, attempts, cardSeq, attempt,
    sessionFromRecord_filed coercions representable]
  by_cases bounded : boundedMessageId record.session.messageId = true
  · by_cases interactive : record.session.kind = py "interactive"
    · simp [bounded, interactive, CardRecord.sorted]
    · simp [bounded, interactive, CardRecord.sorted]
  · simp [bounded, CardRecord.sorted]

/-- What `load` sees of the deadline. -/
private theorem unexpired_filed (representable : record.Representable clock runtime) (now : Int) :
    unexpired clock now (.obj (record.filed clock)) = decide (now < record.expiresAt) := by
  rw [unexpired, expiryOf_filed representable]

end Records

namespace CardRegistry

variable {registry : CardRegistry} {wall now : Int} {messageId : PyStr} {after : CardEntry}

private theorem toEntry_messageId {record : CardRecord}
    (read : record.toEntry wall now = some after) :
    after.session.messageId = record.session.messageId := by
  obtain ⟨-, -, -, same⟩ := toEntry_some read
  rw [same]

private theorem toEntry_of_live {record : CardRecord} (live : wall < record.expiresAt)
    (bounded : boundedMessageId record.session.messageId = true)
    (interactive : record.session.kind = py "interactive") (now : Int) :
    ∃ entry, record.toEntry wall now = some entry := by
  unfold CardRecord.toEntry
  rw [if_neg (Int.not_le.mpr live), bounded, if_neg (not_not.mpr interactive)]
  exact ⟨_, rfl⟩

/-- With room for every record, exactly the records that can be read become entries. -/
private theorem get?_rehydrate {records : List CardRecord}
    (nodup : (records.map fun record => record.session.messageId).Nodup)
    (fresh : ∀ record ∈ records, registry.entries.get? record.session.messageId = none)
    (room : registry.entries.size + records.length ≤ registry.maxSessions) :
    (rehydrate wall now records registry).entries.get? messageId = some after ↔
      registry.entries.get? messageId = some after ∨
        ∃ record ∈ records, record.session.messageId = messageId ∧
          record.toEntry wall now = some after := by
  induction records generalizing registry with
  | nil => simp [rehydrate]
  | cons record rest ih =>
    obtain ⟨absent, others⟩ := List.nodup_cons.mp nodup
    have first := fresh record List.mem_cons_self
    have later : ∀ other ∈ rest, registry.entries.get? other.session.messageId = none :=
      fun other member => fresh other (List.mem_cons_of_mem record member)
    rw [List.length_cons] at room
    unfold rehydrate
    cases read : record.toEntry wall now with
    | none =>
      dsimp only
      rw [ih others later (by omega)]
      simp [read]
    | some entry =>
      have name := toEntry_messageId read
      have free : registry.hasRoom = true := by
        simp only [hasRoom, decide_eq_true_eq]
        omega
      have stored : ∀ other, (registry.put entry.session.messageId entry).entries.get? other =
          if record.session.messageId = other then some entry else registry.entries.get? other := by
        intro other
        rw [put, Dict.get?_set, name]
      have grown : (registry.put entry.session.messageId entry).entries.size ≤
          registry.entries.size + 1 := by
        rw [put, Dict.size_set]
        split <;> omega
      have kept : ∀ other ∈ rest,
          (registry.put entry.session.messageId entry).entries.get? other.session.messageId = none := by
        intro other member
        rw [stored, if_neg, later other member]
        intro same
        exact absent (List.mem_map.mpr ⟨other, member, same.symm⟩)
      dsimp only
      rw [if_pos free, ih others kept (by show _ ≤ registry.maxSessions; omega), stored]
      by_cases same : record.session.messageId = messageId
      · rw [if_pos same, ← same, first]
        simp [read]
      · rw [if_neg same]
        simp [same]

end CardRegistry

/-- An interactive card without clarify controls, which is what the store keeps. -/
structure CardEntry.Interactive (entry : CardEntry) : Prop where
  kind : entry.session.kind = py "interactive"
  clarify : entry.session.clarify = none

theorem toRecord_isSome_iff (entry : CardEntry) :
    entry.toRecord.isSome ↔ entry.Interactive ∧ entry.wallExpiresAt ≠ 0 := by
  unfold CardEntry.toRecord
  constructor
  · intro kept
    split at kept
    · cases kept
    · rename_i durable
      rw [not_or, not_not, Option.not_isSome_iff_eq_none] at durable
      split at kept
      · cases kept
      · rename_i dated
        exact ⟨⟨durable.1, durable.2⟩, dated⟩
  · intro durable
    rw [if_neg, if_neg durable.2]
    · rfl
    · rw [not_or, not_not, Option.not_isSome_iff_eq_none]
      exact ⟨durable.1.kind, durable.1.clarify⟩

/-- The restored entry stands for the same binding: every action gets the same verdict, and
card, numbers and deadline are the same; what was being dispatched is pending again. -/
structure SameBinding (before after : CardEntry) : Prop where
  verdict : ∀ action, actionMatchesSession action after.session =
    actionMatchesSession action before.session
  card : after.session.card.sortKeys = before.session.card.sortKeys
  plain : after.session.plain = before.session.plain
  cardSeq : after.cardSeq = before.cardSeq
  attemptEventId : after.attemptEventId = before.attemptEventId
  dispatchAttempts : after.dispatchAttempts = before.dispatchAttempts
  wallExpiresAt : after.wallExpiresAt = before.wallExpiresAt
  state : after.state = if before.state = .completed then .completed else .pending

private theorem inputMatches_congr {first second : CardSession}
    (inputs : first.inputIds = second.inputIds)
    (limit : first.maxInputTextBytes = second.maxInputTextBytes) (values : List (PyStr × PyStr)) :
    inputMatches first values = inputMatches second values := by
  induction values with
  | nil => rfl
  | cons value rest ih =>
    unfold inputMatches
    rw [inputs, limit, ih]

/-- The verdict looks at the labels only for the action ids among them. -/
private theorem actionMatchesSession_congr {session : CardSession} {labels : List (PyStr × PyStr)}
    (same : labels.Perm session.actionLabels) (card : Json) (clarify : Option ClarifySession)
    (action : CardAction) :
    actionMatchesSession action { session with card, clarify, actionLabels := labels } =
      actionMatchesSession action session := by
  have inputs : inputMatches { session with card, clarify, actionLabels := labels } action.inputs =
      inputMatches session action.inputs :=
    @inputMatches_congr { session with card, clarify, actionLabels := labels } session rfl rfl _
  have ids : action.actionId ∉ labels.map Prod.fst ↔
      action.actionId ∉ session.actionLabels.map Prod.fst :=
    not_congr (same.map Prod.fst).mem_iff
  unfold actionMatchesSession
  rw [inputs]
  simp only [ids]
  rfl

private theorem perm_sortLabels (labels : List (PyStr × PyStr)) : (sortLabels labels).Perm labels :=
  List.perm_insertionSort _ labels

theorem sameBinding_of_read {entry after : CardEntry} {record : CardRecord} {wall now : Int}
    (kept : entry.toRecord = some record) (read : record.sorted.toEntry wall now = some after) :
    SameBinding entry after := by
  have same := toRecord_some kept
  obtain ⟨-, -, -, restored⟩ := toEntry_some read
  subst same restored
  refine ⟨?_, ?_, rfl, rfl, rfl, rfl, rfl, ?_⟩
  · intro action
    exact @actionMatchesSession_congr entry.session _ (perm_sortLabels _) _ none action
  · exact Json.sortKeys_idempotent entry.session.card
  · cases entry.state <;> simp [CardRecord.sorted]

section Restore

variable {clock : WallClock} {coercions : Coercions} {runtime : Json.Runtime}
  {sha256 : Bytes → Bytes} {robotId other : RobotId} {registry : CardRegistry}
  {records : List CardRecord} {content : Bytes} {loadedAt wallNow monoNow : Int}

theorem mem_records_iff {record : CardRecord} : record ∈ registry.records ↔
    ∃ messageId entry, registry.entries.get? messageId = some entry ∧
      entry.toRecord = some record := by
  unfold CardRegistry.records
  rw [List.mem_filterMap]
  constructor
  · rintro ⟨⟨messageId, entry⟩, member, kept⟩
    exact ⟨messageId, entry, (Dict.mem_entries_iff _ _ _).mp member, kept⟩
  · rintro ⟨messageId, entry, found, kept⟩
    exact ⟨(messageId, entry), (Dict.mem_entries_iff _ _ _).mpr found, kept⟩

private theorem sublist_messageIds {entries : List (PyStr × CardEntry)}
    (keyed : ∀ item ∈ entries, item.2.session.messageId = item.1) :
    ((entries.filterMap fun item => item.2.toRecord).map
      fun record => record.session.messageId).Sublist (entries.map Prod.fst) := by
  induction entries with
  | nil => exact .refl _
  | cons item rest ih =>
    have later := ih fun other member => keyed other (List.mem_cons_of_mem item member)
    rw [List.filterMap_cons, List.map_cons]
    cases kept : item.2.toRecord with
    | none => exact later.cons item.1
    | some record =>
      have name : record.session.messageId = item.1 := by
        rw [toRecord_some kept]
        exact keyed item List.mem_cons_self
      dsimp only
      rw [List.map_cons, name]
      exact later.cons_cons item.1

private theorem nodup_messageIds (keyed : registry.Keyed) :
    (registry.records.map fun record => record.session.messageId).Nodup := by
  refine (sublist_messageIds ?_).nodup registry.entries.nodup_keys
  intro item member
  exact (keyed item.1 item.2 ((Dict.mem_entries_iff _ _ _).mp member)).same

private theorem rehydrateBindings_filed
    (representable : ∀ record ∈ records, record.Representable clock runtime) :
    rehydrateBindings clock coercions wallNow monoNow
      (records.map fun record => .obj (record.filed clock)) registry =
        CardRegistry.rehydrate wallNow monoNow (records.map CardRecord.sorted) registry := by
  induction records generalizing registry with
  | nil => rfl
  | cons record rest ih =>
    have later := fun other member =>
      representable other (List.mem_cons_of_mem record member)
    rw [List.map_cons, List.map_cons]
    unfold rehydrateBindings CardRegistry.rehydrate
    rw [entryFromRecord_filed coercions (representable record List.mem_cons_self)]
    cases record.sorted.toEntry wallNow monoNow with
    | none => exact ih later
    | some entry =>
      dsimp only
      rw [ih later]

private theorem readsBack_bindingsBody (robotId : RobotId)
    (representable : ∀ record ∈ records, record.Representable clock runtime) :
    Json.ReadsBack runtime (bindingsBody robotId (records.map (CardRecord.toJson clock))) := by
  apply Json.ReadsBack.obj
  · simp [py_inj]
  · simp only [List.forall_mem_cons]
    refine ⟨.str _, .arr ?_, by simp⟩
    intro item member
    obtain ⟨record, listed, same⟩ := List.mem_map.mp member
    rw [← same]
    exact (representable record listed).readsBack

/-- What `load` returns of a document that was saved: to its own identity the records that
have not expired, to another one nothing. -/
theorem loadBindings_saved
    (representable : ∀ record ∈ records, record.Representable clock runtime)
    (shallow : (bindingsBody robotId (records.map (CardRecord.toJson clock))).depth + 1 ≤
      runtime.loadsDepth)
    (saved : saveBindings runtime sha256 robotId (records.map (CardRecord.toJson clock)) =
      .ok content) :
    loadBindings clock runtime sha256 other (some (.bytes content)) loadedAt =
      .ok (if robotId = other then
        (records.filter fun record => loadedAt < record.expiresAt).map
          fun record => .obj (record.filed clock)
      else []) := by
  have read := readStateDocument_documentBytes (readsBack_bindingsBody robotId representable)
    shallow saved
  have nodup : ([(py "robot_id", Json.str robotId.val),
      (py "records", .arr (records.map (CardRecord.toJson clock)))].map Prod.fst).Nodup := by
    simp [py_inj]
  have listed : (records.map (CardRecord.toJson clock)).map Json.sortKeys =
      records.map fun record => .obj (record.filed clock) := by
    rw [List.map_map]
    exact List.map_congr_left fun record _ => sortKeys_toJson clock record
  have filtered : (records.map fun record => Json.obj (record.filed clock)).filter
      (unexpired clock loadedAt) =
        (records.filter fun record => loadedAt < record.expiresAt).map
          fun record => .obj (record.filed clock) := by
    have same : ∀ record ∈ records,
        (unexpired clock loadedAt ∘ fun record => .obj (CardRecord.filed clock record)) record =
          decide (loadedAt < record.expiresAt) := by
      intro record member
      rw [Function.comp_apply, unexpired_filed (representable record member)]
    rw [List.filter_map, List.filter_congr same]
  rw [bindingsBody, Json.sortKeys_obj] at read
  unfold loadBindings
  rw [read]
  dsimp only
  unfold ownedBy
  rw [Json.field_sorted _ nodup, Json.field_sorted _ nodup]
  simp only [Json.field, Dict.lookup, py_inj, String.reduceEq, reduceIte, Option.getD_some,
    Json.sortKeys, Json.sortItems_eq_map, listed, Registry.iterate, Bool.not_eq_true',
    decide_eq_false_iff_not]
  by_cases same : robotId = other
  · rw [if_pos same, if_neg (by rw [same]; simp), Except.map, filtered]
  · have different : ¬ robotId.val = other.val := fun equal => same (Subtype.ext equal)
    rw [if_neg same, if_pos different]

/-- What another identity makes of the file. -/
private theorem restoreBindings_other
    (representable : ∀ record ∈ records, record.Representable clock runtime)
    (shallow : (bindingsBody robotId (records.map (CardRecord.toJson clock))).depth + 1 ≤
      runtime.loadsDepth)
    (saved : saveBindings runtime sha256 robotId (records.map (CardRecord.toJson clock)) =
      .ok content)
    (different : robotId ≠ other) :
    restoreBindings clock coercions runtime sha256 other (some (.bytes content)) loadedAt wallNow
      monoNow registry = registry := by
  unfold restoreBindings
  rw [loadBindings_saved representable shallow saved, if_neg different]
  rfl

/-- With room for every record, exactly the bindings whose deadline is ahead come back. -/
private theorem get?_restoreBindings
    (representable : ∀ record ∈ records, record.Representable clock runtime)
    (shallow : (bindingsBody robotId (records.map (CardRecord.toJson clock))).depth + 1 ≤
      runtime.loadsDepth)
    (saved : saveBindings runtime sha256 robotId (records.map (CardRecord.toJson clock)) =
      .ok content)
    (nodup : (records.map fun record => record.session.messageId).Nodup)
    (fresh : ∀ record ∈ records, registry.entries.get? record.session.messageId = none)
    (room : registry.entries.size + records.length ≤ registry.maxSessions) {messageId : PyStr}
    {after : CardEntry} :
    (restoreBindings clock coercions runtime sha256 robotId (some (.bytes content)) loadedAt wallNow
      monoNow registry).entries.get? messageId = some after ↔
        registry.entries.get? messageId = some after ∨
          ∃ record ∈ records, record.session.messageId = messageId ∧
            loadedAt < record.expiresAt ∧ record.sorted.toEntry wallNow monoNow = some after := by
  have inside : (records.filter fun record => loadedAt < record.expiresAt).Sublist records :=
    List.filter_sublist
  have names : ((records.filter fun record => loadedAt < record.expiresAt).map
      CardRecord.sorted).map (fun record => record.session.messageId) =
        (records.filter fun record => loadedAt < record.expiresAt).map
          fun record => record.session.messageId := by
    rw [List.map_map]
    rfl
  unfold restoreBindings
  rw [loadBindings_saved representable shallow saved, if_pos rfl]
  dsimp only
  rw [rehydrateBindings_filed fun record member => representable record (inside.subset member),
    CardRegistry.get?_rehydrate]
  · apply or_congr_right
    simp only [List.mem_map, List.mem_filter, decide_eq_true_eq]
    constructor
    · rintro ⟨-, ⟨record, ⟨member, live⟩, rfl⟩, same, read⟩
      exact ⟨record, member, same, live, read⟩
    · rintro ⟨record, member, same, live, read⟩
      exact ⟨record.sorted, ⟨record, ⟨member, live⟩, rfl⟩, same, read⟩
  · rw [names]
    exact (inside.map _).nodup nodup
  · intro sorted member
    obtain ⟨record, listed, same⟩ := List.mem_map.mp member
    rw [← same]
    exact fresh record (inside.subset listed)
  · have shorter := inside.length_le
    rw [List.length_map]
    omega

end Restore

open CardRegistry in
/-- A binding of any run that was written and read back before its deadline is restored as
the same binding, and nothing else is restored, to no other identity. -/
theorem restores_bindings (clock : WallClock) (coercions : Coercions) (runtime : Json.Runtime)
    (sha256 : Bytes → Bytes) (robotId : RobotId) (maxSessions : Nat) (ttlSeconds : Int)
    (maxDispatchAttempts : Nat) (persistence : Option (List CardRecord)) (now wall : Int)
    (events : List BindingEvent) (prunedAt : Int) (content : Bytes) (loadedAt wallNow : Nat)
    (monoNow : Int) :
    let start := emptyShelf maxSessions ttlSeconds maxDispatchAttempts persistence now wall
    let written := ((bindingMachine start).run events).registry.prune prunedAt
    let saved := written.records.map (CardRecord.toJson clock)
    let restored := fun other => restoreBindings clock coercions runtime sha256 other
      (some (.bytes content)) loadedAt wallNow monoNow start.registry
    (∀ record ∈ written.records, record.Representable clock runtime) →
    saveBindings runtime sha256 robotId saved = .ok content →
    (bindingsBody robotId saved).depth + 1 ≤ runtime.loadsDepth →
    (∀ messageId entry, written.entries.get? messageId = some entry → entry.Interactive →
      loadedAt < entry.wallExpiresAt → wallNow < entry.wallExpiresAt →
        ∃ after, (restored robotId).entries.get? messageId = some after ∧
          SameBinding entry after) ∧
      (∀ messageId after, (restored robotId).entries.get? messageId = some after →
        ∃ entry, written.entries.get? messageId = some entry ∧ entry.Interactive ∧
          loadedAt < entry.wallExpiresAt ∧ wallNow < entry.wallExpiresAt ∧
            SameBinding entry after) ∧
      ∀ other, robotId ≠ other → (restored other).entries = .empty := by
  intro start written saved restored representable stored shallow
  have ordered := ordered_run maxSessions ttlSeconds maxDispatchAttempts persistence now wall events
  have pruned := shrinks_prune ((bindingMachine start).run events).registry prunedAt
  have keyed : written.Keyed := keyed_of_shrinks ordered.keyed pruned
  have room : start.registry.entries.size + written.records.length ≤
      start.registry.maxSessions := by
    have listed : written.records.length ≤ written.entries.size := List.length_filterMap_le _ _
    have fits := (listed.trans pruned.size_le).trans ordered.fits
    show 0 + written.records.length ≤ max 1 maxSessions
    omega
  have back : ∀ messageId after, (restored robotId).entries.get? messageId = some after ↔
      ∃ record ∈ written.records, record.session.messageId = messageId ∧
        loadedAt < record.expiresAt ∧ record.sorted.toEntry wallNow monoNow = some after := by
    intro messageId after
    have known := @get?_restoreBindings clock coercions runtime sha256 robotId start.registry
      written.records content loadedAt wallNow monoNow representable shallow stored
      (nodup_messageIds keyed) (fun _ _ => rfl) room messageId after
    rw [known]
    constructor
    · rintro (absent | found)
      · cases absent
      · exact found
    · exact .inr
  refine ⟨?_, ?_, ?_⟩
  · intro messageId entry found interactive loaded live
    have known := keyed messageId entry found
    have dated : entry.wallExpiresAt ≠ 0 := by omega
    obtain ⟨record, kept⟩ :=
      Option.isSome_iff_exists.mp ((toRecord_isSome_iff entry).mpr ⟨interactive, dated⟩)
    have same := toRecord_some kept
    have name : record.session.messageId = messageId := by
      rw [same]
      exact known.same
    have deadline : record.expiresAt = entry.wallExpiresAt := by rw [same]
    have kind : record.session.kind = py "interactive" := by
      rw [same]
      exact interactive.kind
    obtain ⟨after, read⟩ : ∃ after, record.sorted.toEntry wallNow monoNow = some after := by
      apply CardRegistry.toEntry_of_live
      · show (wallNow : Int) < record.expiresAt
        rw [deadline]
        exact live
      · show boundedMessageId record.session.messageId = true
        rw [name]
        exact known.bounded
      · exact kind
    have listed := mem_records_iff.mpr ⟨messageId, entry, found, kept⟩
    refine ⟨after, (back messageId after).mpr ⟨record, listed, name, ?_, read⟩,
      sameBinding_of_read kept read⟩
    rw [deadline]
    exact loaded
  · intro messageId after present
    obtain ⟨record, member, name, loaded, read⟩ := (back messageId after).mp present
    obtain ⟨other, entry, found, kept⟩ := mem_records_iff.mp member
    have same := toRecord_some kept
    obtain ⟨durable, -⟩ := (toRecord_isSome_iff entry).mp (Option.isSome_of_eq_some kept)
    obtain ⟨live, -⟩ := toEntry_some read
    have here : other = messageId := by
      rw [← (keyed other entry found).same, ← name, same]
    rw [here] at found
    rw [same] at loaded live
    exact ⟨entry, found, durable, loaded, live, sameBinding_of_read kept read⟩
  · intro other different
    show (restoreBindings clock coercions runtime sha256 other _ _ _ _ _).entries = _
    rw [restoreBindings_other representable shallow stored different]
    rfl

/-- A card with one button that waits over a restart. -/
theorem restores_pending_binding :
    let session : CardSession := ⟨py "m", py "b", py "k", py "c", py "c", .DM, py "u",
      .obj [(py "type", .str (py "AdaptiveCard"))], py "text", [(py "ok", py "OK")], [], [], none,
      some 64, none, py "interactive"⟩
    let entry : CardEntry := ⟨session, 100, 1100, .pending, none, none, 0, 0⟩
    let runtime : Json.Runtime := ⟨1000, 1000, by decide, by decide, fun _ => "1100.0"⟩
    let clock : WallClock := ⟨fun _ => "1100.0", fun _ => some 1100⟩
    let coercions : Coercions := ⟨fun _ => [], fun _ => none, fun _ => none⟩
    let robotId : RobotId := ⟨py "r", by decide⟩
    let saved := [CardRecord.toJson clock ⟨session, 1100, .pending, none, none, 0, 0⟩]
    ∃ content after, saveBindings runtime (fun _ => []) robotId saved = .ok content ∧
      (restoreBindings clock coercions runtime (fun _ => []) robotId (some (.bytes content)) 1050
        1050 7 (.new 4 100 3 none)).entries.get? (py "m") = some after ∧ SameBinding entry after := by
  intro session entry runtime clock coercions robotId saved
  have representable : CardRecord.Representable clock runtime
      ⟨session, 1100, .pending, none, none, 0, 0⟩ := by
    refine ⟨⟨_, rfl⟩, ?_, ?_, ?_, ?_, rfl⟩
    · refine .obj (by decide) ?_
      simp only [List.forall_mem_cons]
      exact ⟨.str _, by simp⟩
    · decide
    · decide
    · have plain : (py "1100.0").all (fun point => !Json.isDelimiter point) = true := rfl
      exact .float (by decide) (by simpa using plain)
        (by simp +decide [Json.readAtom, py, Json.readNumber, runtime, clock])
  have scalar : (bindingsBody robotId saved).Scalar := by
    refine .obj (by simp [encodable_py]) ?_
    simp only [List.forall_mem_cons]
    refine ⟨.str (encodable_py _), .arr ?_, by simp⟩
    simp only [saved, List.forall_mem_cons]
    refine ⟨.obj (by simp [CardRecord.fields, encodable_py]) ?_, by simp⟩
    simp only [CardRecord.fields, List.forall_mem_cons]
    refine ⟨.str (encodable_py _), .str (encodable_py _), .str (encodable_py _),
      .str (encodable_py _), .str (encodable_py _), .str (encodable_py _), .str (encodable_py _),
      .str (encodable_py _), .int _, .obj ?_ ?_, .obj ?_ ?_, .arr ?_, .arr ?_, .null, .int _,
      .float _, .str (encodable_py _), .null, .null, .int _, .int _, by simp⟩
    · simp [encodable_py]
    · simp only [List.forall_mem_cons]
      exact ⟨.str (encodable_py _), by simp⟩
    · simp [session, encodable_py]
    · simp only [session, List.map_cons, List.map_nil, List.forall_mem_cons]
      exact ⟨.str (encodable_py _), by simp⟩
    · simp [session]
    · simp [session]
  have shallow : (bindingsBody robotId saved).depth + 1 ≤ 1000 := by decide
  obtain ⟨content, stored⟩ := @documentBytes_ok runtime _ (fun _ => []) scalar shallow
  obtain ⟨restored, -, -⟩ := restores_bindings clock coercions runtime (fun _ => []) robotId 4 100
    3 none 0 1000 [.call (.register session ⟨0, none⟩)] 50 content 1050 1050 7
    (List.forall_mem_singleton.mpr representable) stored shallow
  obtain ⟨after, present, same⟩ :=
    restored (py "m") entry rfl ⟨rfl, rfl⟩ (by decide) (by decide)
  exact ⟨content, after, stored, present, same⟩

end OctoChannel.Cards

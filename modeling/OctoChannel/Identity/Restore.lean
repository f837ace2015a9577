import OctoChannel.Identity.Invariant

namespace OctoChannel.Identity

open Foundation

namespace Registry

variable {source registry : Registry}

/-- Two registries with the same routes in the same order, the same conflicts and
the same answers of the target maps; links, dirty flag and load flags are free. -/
structure Agree (first second : Registry) : Prop where
  sessions : first.sessionRoutes = second.sessionRoutes
  targets : first.targetRoutes = second.targetRoutes
  sessionConflicts : first.sessionConflicts = second.sessionConflicts
  targetConflicts : first.targetConflicts = second.targetConflicts
  index : ∀ chatId, first.chatIndex.get? chatId = second.chatIndex.get? chatId
  types : ∀ target, first.targetChannelTypes.get? target = second.targetChannelTypes.get? target
  wires : ∀ target, first.targetWireIds.get? target = second.targetWireIds.get? target

theorem Agree.refl (registry : Registry) : registry.Agree registry where
  sessions := rfl
  targets := rfl
  sessionConflicts := rfl
  targetConflicts := rfl
  index _ := rfl
  types _ := rfl
  wires _ := rfl

theorem Agree.trans {first second third : Registry} (left : first.Agree second)
    (right : second.Agree third) : first.Agree third where
  sessions := left.sessions.trans right.sessions
  targets := left.targets.trans right.targets
  sessionConflicts := left.sessionConflicts.trans right.sessionConflicts
  targetConflicts := left.targetConflicts.trans right.targetConflicts
  index chatId := (left.index chatId).trans (right.index chatId)
  types target := (left.types target).trans (right.types target)
  wires target := (left.wires target).trans (right.wires target)

theorem Agree.symm {first second : Registry} (agree : first.Agree second) : second.Agree first where
  sessions := agree.sessions.symm
  targets := agree.targets.symm
  sessionConflicts := agree.sessionConflicts.symm
  targetConflicts := agree.targetConflicts.symm
  index chatId := (agree.index chatId).symm
  types target := (agree.types target).symm
  wires target := (agree.wires target).symm

private theorem forEach_map {Item : Type} {apply : Registry → Json → Applied} {record : Item → Json}
    {replay : Registry → Item → Registry} {items : List Item}
    (each : ∀ registry, ∀ item ∈ items, apply registry (record item) = (replay registry item, none))
    (registry : Registry) :
    forEach apply registry (items.map record) = (items.foldl replay registry, none) := by
  induction items generalizing registry with
  | nil => rfl
  | cons item rest ih =>
    rw [List.map_cons, forEach, each registry item (by simp), List.foldl_cons]
    exact ih (fun registry item member => each registry item (List.mem_cons_of_mem _ member)) _

/-- The loop of `_apply_body` over one list, after the loops before it. -/
def thenEach (apply : Registry → Json → Applied) (records : List Json) : Applied → Applied
  | (registry, some error) => (registry, some error)
  | (registry, none) => forEach apply registry records

/-- `_apply_body` on a body whose four members are lists. -/
def applyLists (registry : Registry)
    (sessions targets sessionConflicts targetConflicts : List Json) : Applied :=
  let applied := (registry.cleared, none)
    |> thenEach applySession sessions
    |> thenEach applyTarget targets
    |> thenEach applySessionConflict sessionConflicts
    |> thenEach applyTargetConflict targetConflicts
  match applied with
  | (restored, none) => ({ restored with dirty := false }, none)
  | (partly, some error) => (partly, some error)

private theorem applyField_arr {name : String} {members : List (PyStr × Json)}
    {records : List Json} (stored : Json.field (py name) members = .arr records)
    (apply : Registry → Json → Applied) :
    applyField name apply members = thenEach apply records := by
  funext state
  obtain ⟨registry, outcome⟩ := state
  cases outcome with
  | none => simp only [applyField, thenEach, stored, iterate]
  | some error => rfl

theorem applyBody_of_lists {members : List (PyStr × Json)}
    {sessions targets sessionConflicts targetConflicts : List Json}
    (sessionsStored : Json.field (py "sessions") members = .arr sessions)
    (targetsStored : Json.field (py "targets") members = .arr targets)
    (sessionConflictsStored : Json.field (py "session_conflicts") members = .arr sessionConflicts)
    (targetConflictsStored : Json.field (py "target_conflicts") members = .arr targetConflicts)
    (registry : Registry) :
    registry.applyBody (.obj members) =
      registry.applyLists sessions targets sessionConflicts targetConflicts := by
  simp only [applyBody, applyField_arr sessionsStored, applyField_arr targetsStored,
    applyField_arr sessionConflictsStored, applyField_arr targetConflictsStored]
  rfl

/-- What the record of a session writes back. -/
def replaySession (source registry : Registry) (entry : SessionKey × RobotId) : Registry :=
  { registry with
    sessionRoutes := registry.sessionRoutes.set entry.1 entry.2
    targetSessions := match source.sessionTarget entry.1 with
      | some target => registry.targetSessions.link target entry.1
      | none => registry.targetSessions }

/-- What the record of a target with a known channel type writes back. -/
def replayTarget (source registry : Registry) (entry : TargetKey × RobotId) : Registry :=
  match source.targetChannelTypes.get? entry.1 with
  | some channelType =>
    (registry.openTarget entry.1 entry.2).recordWire entry.1 channelType
      (source.targetWireIds.get? entry.1)
  | none => registry

private theorem applySession_sessionRecord (entry : SessionKey × RobotId) :
    applySession registry (source.sessionRecord entry) =
      (source.replaySession registry entry, none) := by
  unfold applySession sessionRecord replaySession
  cases source.sessionTarget entry.1 with
  | none => simp +decide [Json.field, Dict.lookup, nonemptyOfJson?, RobotId.ofJson?, chatTypeIn]
  | some target =>
    simp +decide [Json.field, Dict.lookup, nonemptyOfJson?, RobotId.ofJson?, chatTypeIn]

private theorem applyTarget_targetRecord {entry : TargetKey × RobotId}
    (typed : (source.targetChannelTypes.get? entry.1).isSome) :
    applyTarget registry (source.targetRecord entry) =
      (source.replayTarget registry entry, none) := by
  obtain ⟨channelType, known⟩ := Option.isSome_iff_exists.mp typed
  unfold applyTarget targetRecord replayTarget
  cases wire : source.targetWireIds.get? entry.1 with
  | none =>
    simp +decide [Json.field, Dict.lookup, nonemptyOfJson?, RobotId.ofJson?, ChannelType.ofJson?,
      chatTypeIn, storedWire, known]
  | some wire =>
    simp +decide [Json.field, Dict.lookup, nonemptyOfJson?, RobotId.ofJson?, ChannelType.ofJson?,
      chatTypeIn, storedWire, known]

private theorem forEach_sessionConflicts (texts : List PyStr) (registry : Registry) :
    forEach applySessionConflict registry (texts.map .str) =
      ({ registry with
          sessionConflicts := registry.sessionConflicts ∪ (texts.filterMap nonempty?).toFinset },
        none) := by
  induction texts generalizing registry with
  | nil => simp [forEach]
  | cons text rest ih =>
    cases key : nonempty? text with
    | none => simp [forEach, applySessionConflict, nonemptyOfJson?, key, ih]
    | some key' =>
      simp [forEach, applySessionConflict, nonemptyOfJson?, key, ih, Finset.insert_union]

/-- The target a conflict record names, when it names one. -/
def conflictTarget? (conflict : PyStr ×ₗ PyStr) : Option TargetKey :=
  match ChatType.ofStr? (ofLex conflict).1, nonempty? (ofLex conflict).2 with
  | some chatType, some chatId => some (chatType, chatId)
  | _, _ => none

private theorem forEach_targetConflicts (conflicts : List (PyStr ×ₗ PyStr)) (registry : Registry) :
    forEach applyTargetConflict registry (conflicts.map targetConflictRecord) =
      ({ registry with
          targetConflicts :=
            registry.targetConflicts ∪ (conflicts.filterMap conflictTarget?).toFinset },
        none) := by
  induction conflicts generalizing registry with
  | nil => simp [forEach]
  | cons conflict rest ih =>
    cases chatType : ChatType.ofStr? (ofLex conflict).1 with
    | none =>
      simp [forEach, applyTargetConflict, targetConflictRecord, chatTypeIn, conflictTarget?,
        chatType, ih]
    | some chatType' =>
      cases chatId : nonempty? (ofLex conflict).2 with
      | none =>
        simp [forEach, applyTargetConflict, targetConflictRecord, chatTypeIn, conflictTarget?,
          nonemptyOfJson?, chatType, chatId, ih]
      | some chatId' =>
        simp [forEach, applyTargetConflict, targetConflictRecord, chatTypeIn, conflictTarget?,
          nonemptyOfJson?, chatType, chatId, ih, Finset.insert_union]

private theorem toFinset_conflictedSessions (source : Registry) :
    (source.conflictedSessions.filterMap nonempty?).toFinset = source.sessionConflicts := by
  ext key
  simp only [conflictedSessions, List.mem_toFinset, List.mem_filterMap, Finset.mem_sort,
    Finset.mem_image]
  constructor
  · rintro ⟨text, ⟨origin, member, rfl⟩, same⟩
    rw [nonempty?_val, Option.some.injEq] at same
    exact same ▸ member
  · intro member
    exact ⟨key.val, ⟨key, member, rfl⟩, nonempty?_val key⟩

private theorem toFinset_conflictedTargets (source : Registry) :
    (source.conflictedTargets.filterMap conflictTarget?).toFinset = source.targetConflicts := by
  ext target
  have named (target : TargetKey) :
      conflictTarget? (toLex (target.1.text, target.2.val)) = some target := by
    simp [conflictTarget?]
  simp only [conflictedTargets, List.mem_toFinset, List.mem_filterMap, Finset.mem_sort,
    Finset.mem_image]
  constructor
  · rintro ⟨conflict, ⟨origin, member, rfl⟩, same⟩
    rw [named, Option.some.injEq] at same
    exact same ▸ member
  · intro member
    exact ⟨_, ⟨target, member, rfl⟩, named target⟩

theorem sessionTarget_mem {key : SessionKey} {target : TargetKey}
    (named : source.sessionTarget key = some target) : target ∈ source.listings key :=
  List.mem_of_getLast? named

theorem foldl_replaySession (source : Registry) (items : List (SessionKey × RobotId))
    (registry : Registry) :
    items.foldl source.replaySession registry = { registry with
      sessionRoutes := registry.sessionRoutes.setAll items
      targetSessions := (items.foldl source.replaySession registry).targetSessions } := by
  induction items generalizing registry with
  | nil => rfl
  | cons item rest ih =>
    rw [List.foldl_cons, ih]
    rfl

private theorem listings_replaySession_of_ne {entry : SessionKey × RobotId} {key : SessionKey}
    (different : entry.1 ≠ key) :
    (source.replaySession registry entry).listings key = registry.listings key := by
  unfold listings replaySession
  split
  · exact Links.listings_link_of_ne _ different
  · rfl

private theorem listings_replaySession_self {entry : SessionKey × RobotId}
    (unlisted : registry.listings entry.1 = []) :
    (source.replaySession registry entry).listings entry.1 =
      (source.sessionTarget entry.1).toList := by
  unfold listings replaySession
  split
  · rename_i target named
    rw [named]
    exact Links.listings_link_of_unlisted unlisted target
  · rename_i none
    rw [none]
    exact unlisted

private theorem listings_foldl_replaySession_of_not_mem {items : List (SessionKey × RobotId)}
    {key : SessionKey} (absent : key ∉ items.map Prod.fst) (registry : Registry) :
    (items.foldl source.replaySession registry).listings key = registry.listings key := by
  induction items generalizing registry with
  | nil => rfl
  | cons item rest ih =>
    simp only [List.map_cons, List.mem_cons, not_or] at absent
    rw [List.foldl_cons, ih absent.2, listings_replaySession_of_ne (Ne.symm absent.1)]

/-- Every replayed session comes back with the one target its record names. -/
private theorem listings_foldl_replaySession {items : List (SessionKey × RobotId)}
    {key : SessionKey}
    (nodup : (items.map Prod.fst).Nodup) (member : key ∈ items.map Prod.fst)
    (unlisted : ∀ item ∈ items, registry.listings item.1 = []) :
    (items.foldl source.replaySession registry).listings key =
      (source.sessionTarget key).toList := by
  induction items generalizing registry with
  | nil => cases member
  | cons item rest ih =>
    rw [List.map_cons, List.nodup_cons] at nodup
    rw [List.foldl_cons]
    by_cases same : item.1 = key
    · subst same
      rw [listings_foldl_replaySession_of_not_mem nodup.1,
        listings_replaySession_self (unlisted item (by simp))]
    · have later : key ∈ rest.map Prod.fst := by
        simpa [Ne.symm same] using member
      refine ih nodup.2 later fun other present => ?_
      have different : item.1 ≠ other.1 := fun clash =>
        nodup.1 (clash ▸ List.mem_map_of_mem present)
      rw [listings_replaySession_of_ne different]
      exact unlisted other (List.mem_cons_of_mem _ present)

/-- A replay opens link sets only for targets that a record names. -/
private theorem listed_foldl_replaySession {items : List (SessionKey × RobotId)}
    {target : TargetKey}
    (found : ((items.foldl source.replaySession registry).targetSessions.get? target).isSome) :
    (registry.targetSessions.get? target).isSome ∨
      ∃ key, source.sessionTarget key = some target := by
  induction items generalizing registry with
  | nil => exact .inl found
  | cons item rest ih =>
    rcases ih found with old | named
    · unfold replaySession at old
      split at old
      · rename_i other named
        rw [Links.get?_link] at old
        split at old
        · rename_i same
          exact .inr ⟨item.1, same ▸ named⟩
        · exact .inl old
      · exact .inl old
    · exact .inr named

theorem foldl_replayTarget {items : List (TargetKey × RobotId)}
    (typed : ∀ item ∈ items, (source.targetChannelTypes.get? item.1).isSome)
    (registry : Registry) :
    items.foldl source.replayTarget registry = { registry with
      targetRoutes := registry.targetRoutes.setAll items
      chatIndex := (items.foldl source.replayTarget registry).chatIndex
      targetChannelTypes := (items.foldl source.replayTarget registry).targetChannelTypes
      targetWireIds := (items.foldl source.replayTarget registry).targetWireIds } := by
  induction items generalizing registry with
  | nil => rfl
  | cons item rest ih =>
    obtain ⟨channelType, known⟩ := Option.isSome_iff_exists.mp (typed item (by simp))
    rw [List.foldl_cons, ih fun other member => typed other (List.mem_cons_of_mem _ member)]
    simp only [replayTarget, known]
    rfl

private theorem holders_foldl_replayTarget {items : List (TargetKey × RobotId)}
    (typed : ∀ item ∈ items, (source.targetChannelTypes.get? item.1).isSome)
    {chatId : ChatId} {holder : ChatType × RobotId} :
    holder ∈ (items.foldl source.replayTarget registry).holders chatId ↔
      holder ∈ registry.holders chatId ∨ ((holder.1, chatId), holder.2) ∈ items := by
  induction items generalizing registry with
  | nil => simp
  | cons item rest ih =>
    obtain ⟨channelType, known⟩ := Option.isSome_iff_exists.mp (typed item (by simp))
    rw [List.foldl_cons, ih fun other member => typed other (List.mem_cons_of_mem _ member)]
    have opened : (source.replayTarget registry item).holders chatId =
        (registry.openTarget item.1 item.2).holders chatId := by
      simp only [replayTarget, known]
      rfl
    rw [opened, holders_openTarget]
    obtain ⟨⟨chatType, itemChat⟩, robotId⟩ := item
    obtain ⟨holderType, holderRobot⟩ := holder
    by_cases sameChat : itemChat = chatId
    · subst sameChat
      simp only [if_true, Finset.mem_insert, List.mem_cons, Prod.mk.injEq, and_true]
      tauto
    · simp [sameChat, Ne.symm sameChat]

private theorem inhabited_foldl_replayTarget {items : List (TargetKey × RobotId)}
    (inhabited : ∀ chatId holders, registry.chatIndex.get? chatId = some holders → holders.Nonempty)
    {chatId : ChatId} {holders : Finset (ChatType × RobotId)}
    (found : (items.foldl source.replayTarget registry).chatIndex.get? chatId = some holders) :
    holders.Nonempty := by
  induction items generalizing registry with
  | nil => exact inhabited chatId holders found
  | cons item rest ih =>
    refine ih ?_ found
    intro other held present
    unfold replayTarget at present
    split at present
    · simp only [recordWire, openTarget, Links.get?_link] at present
      split at present
      · cases present
        exact Finset.insert_nonempty _ _
      · exact inhabited other held present
    · exact inhabited other held present

private theorem types_replayTarget {entry : TargetKey × RobotId} {target : TargetKey}
    (settled : registry.targetChannelTypes.get? target = source.targetChannelTypes.get? target ∨
      entry.1 = target) (typed : (source.targetChannelTypes.get? entry.1).isSome) :
    (source.replayTarget registry entry).targetChannelTypes.get? target =
      source.targetChannelTypes.get? target := by
  obtain ⟨channelType, known⟩ := Option.isSome_iff_exists.mp typed
  simp only [replayTarget, known, recordWire, openTarget, Dict.get?_set]
  split
  · rename_i same
    exact same ▸ known.symm
  · rename_i different
    exact settled.resolve_right different

private theorem wires_replayTarget {entry : TargetKey × RobotId} {target : TargetKey}
    (settled : registry.targetWireIds.get? target = source.targetWireIds.get? target ∨
      registry.targetWireIds.get? target = none ∧ entry.1 = target)
    (typed : (source.targetChannelTypes.get? entry.1).isSome) :
    (source.replayTarget registry entry).targetWireIds.get? target =
      source.targetWireIds.get? target := by
  obtain ⟨channelType, known⟩ := Option.isSome_iff_exists.mp typed
  simp only [replayTarget, known, recordWire, openTarget]
  cases wire : source.targetWireIds.get? entry.1 with
  | none =>
    rcases settled with done | ⟨blank, same⟩
    · exact done
    · exact blank.trans (same ▸ wire.symm)
  | some stored =>
    simp only [Dict.get?_set]
    split
    · rename_i same
      exact same ▸ wire.symm
    · rename_i different
      exact settled.resolve_right fun fresh => different fresh.2

/-- After the target loop every replayed target has its channel type back. -/
private theorem types_foldl_replayTarget {items : List (TargetKey × RobotId)}
    (typed : ∀ item ∈ items, (source.targetChannelTypes.get? item.1).isSome) {target : TargetKey}
    (settled : registry.targetChannelTypes.get? target = source.targetChannelTypes.get? target ∨
      target ∈ items.map Prod.fst) :
    (items.foldl source.replayTarget registry).targetChannelTypes.get? target =
      source.targetChannelTypes.get? target := by
  induction items generalizing registry with
  | nil => simpa using settled
  | cons item rest ih =>
    refine ih (fun other member => typed other (List.mem_cons_of_mem _ member)) ?_
    rw [List.map_cons, List.mem_cons] at settled
    rcases settled with done | same | later
    · exact .inl (types_replayTarget (.inl done) (typed item (by simp)))
    · exact .inl (types_replayTarget (.inr same.symm) (typed item (by simp)))
    · exact .inr later

private theorem wires_foldl_replayTarget {items : List (TargetKey × RobotId)}
    (typed : ∀ item ∈ items, (source.targetChannelTypes.get? item.1).isSome) {target : TargetKey}
    (settled : registry.targetWireIds.get? target = source.targetWireIds.get? target ∨
      registry.targetWireIds.get? target = none ∧ target ∈ items.map Prod.fst) :
    (items.foldl source.replayTarget registry).targetWireIds.get? target =
      source.targetWireIds.get? target := by
  induction items generalizing registry with
  | nil => simpa using settled
  | cons item rest ih =>
    refine ih (fun other member => typed other (List.mem_cons_of_mem _ member)) ?_
    have here := typed item (by simp)
    rcases settled with done | ⟨blank, member⟩
    · exact .inl (wires_replayTarget (.inl done) here)
    · by_cases same : item.1 = target
      · exact .inl (wires_replayTarget (.inr ⟨blank, same⟩) here)
      · refine .inr ⟨?_, by simpa [Ne.symm same] using member⟩
        obtain ⟨channelType, known⟩ := Option.isSome_iff_exists.mp here
        simp only [replayTarget, known, recordWire, openTarget]
        cases source.targetWireIds.get? item.1 with
        | none => exact blank
        | some stored => exact (Dict.get?_set_of_ne _ stored same).trans blank

/-- The registry that `_apply_body` leaves for a body written from `source`. -/
def restored (registry source : Registry) : Registry := (registry.applyBody source.bodyLocked).1

private theorem typed_entries (inv : source.Invariant) :
    ∀ item ∈ source.targetRoutes.entries, (source.targetChannelTypes.get? item.1).isSome := by
  intro item member
  rw [inv.typed, (Dict.mem_entries_iff _ _ _).mp member]
  rfl

/-- A snapshot body replays without an exception into the two folds and the two
conflict sets. -/
theorem applyBody_bodyLocked (inv : source.Invariant) (registry : Registry) :
    registry.applyBody source.bodyLocked =
      ({ source.targetRoutes.entries.foldl source.replayTarget
          (source.sessionRoutes.entries.foldl source.replaySession registry.cleared) with
        sessionConflicts := source.sessionConflicts
        targetConflicts := source.targetConflicts
        dirty := false }, none) := by
  have sessions : ∀ registry, forEach applySession registry
      (source.sessionRoutes.entries.map source.sessionRecord) =
        (source.sessionRoutes.entries.foldl source.replaySession registry, none) :=
    forEach_map fun registry item _ => applySession_sessionRecord item
  have targets : ∀ registry, forEach applyTarget registry
      (source.targetRoutes.entries.map source.targetRecord) =
        (source.targetRoutes.entries.foldl source.replayTarget registry, none) :=
    forEach_map fun registry item member => applyTarget_targetRecord (typed_entries inv item member)
  have kept : (source.targetRoutes.entries.foldl source.replayTarget
      (source.sessionRoutes.entries.foldl source.replaySession registry.cleared)).sessionConflicts =
        ∅ ∧
      (source.targetRoutes.entries.foldl source.replayTarget
      (source.sessionRoutes.entries.foldl source.replaySession registry.cleared)).targetConflicts =
        ∅ := by
    rw [foldl_replayTarget (typed_entries inv), foldl_replaySession]
    exact ⟨rfl, rfl⟩
  rw [bodyLocked, applyBody_of_lists rfl rfl rfl rfl]
  simp only [applyLists, thenEach, sessions, targets, forEach_sessionConflicts,
    toFinset_conflictedSessions, kept.1, Finset.empty_union, forEach_targetConflicts,
    toFinset_conflictedTargets, kept.2]

theorem applyBody_bodyLocked_ok (inv : source.Invariant) (registry : Registry) :
    registry.applyBody source.bodyLocked = (registry.restored source, none) := by
  rw [restored, applyBody_bodyLocked inv]

@[simp] theorem dirty_restored (inv : source.Invariant) :
    (registry.restored source).dirty = false := by
  rw [restored, applyBody_bodyLocked inv]

/-- The state between the session loop and the target loop. -/
private def reseated (registry source : Registry) : Registry :=
  source.sessionRoutes.entries.foldl source.replaySession registry.cleared

private theorem reseated_eq (registry source : Registry) :
    registry.reseated source = { registry.cleared with
      sessionRoutes := source.sessionRoutes
      targetSessions := (registry.reseated source).targetSessions } := by
  have all : registry.cleared.sessionRoutes.setAll source.sessionRoutes.entries =
      source.sessionRoutes := source.sessionRoutes.setAll_entries
  unfold reseated
  rw [foldl_replaySession, all]

private theorem restored_eq (inv : source.Invariant) (registry : Registry) :
    registry.restored source =
      { source.targetRoutes.entries.foldl source.replayTarget (registry.reseated source) with
        sessionConflicts := source.sessionConflicts
        targetConflicts := source.targetConflicts
        dirty := false } := by
  rw [restored, applyBody_bodyLocked inv]
  rfl

private theorem holders_restored (inv : source.Invariant) (chatId : ChatId) :
    (registry.restored source).holders chatId = source.holders chatId := by
  have blank : (registry.reseated source).holders chatId = ∅ := by
    rw [reseated_eq]
    rfl
  ext holder
  have member := holders_foldl_replayTarget (typed_entries inv)
    |>.trans (or_iff_right (b := ((holder.1, chatId), holder.2) ∈ source.targetRoutes.entries)
      (blank ▸ Finset.notMem_empty holder))
  rw [Dict.mem_entries_iff, ← inv.indexed] at member
  rw [restored_eq inv]
  exact member

/-- Routes, conflicts and target maps come back exactly, in the same order. -/
theorem agree_restored (inv : source.Invariant) (registry : Registry) :
    (registry.restored source).Agree source := by
  have typed := typed_entries inv
  have routed (target : TargetKey) : target ∈ source.targetRoutes.entries.map Prod.fst ↔
      (source.targetRoutes.get? target).isSome := source.targetRoutes.mem_keys_iff target
  refine { sessions := ?_, targets := ?_, sessionConflicts := ?_, targetConflicts := ?_,
           index := ?_, types := ?_, wires := ?_ }
  · rw [restored_eq inv, foldl_replayTarget typed, reseated_eq]
  · rw [restored_eq inv, foldl_replayTarget typed, reseated_eq]
    exact source.targetRoutes.setAll_entries
  · rw [restored_eq inv]
  · rw [restored_eq inv]
  · refine Links.get?_eq_of_members ?_ inv.inhabited (holders_restored inv)
    intro chatId holders found
    rw [restored_eq inv] at found
    refine inhabited_foldl_replayTarget ?_ found
    intro other held present
    rw [reseated_eq] at present
    cases present
  · intro target
    rw [restored_eq inv]
    refine types_foldl_replayTarget typed ?_
    by_cases member : target ∈ source.targetRoutes.entries.map Prod.fst
    · exact .inr member
    · rw [routed, ← inv.typed, Option.not_isSome_iff_eq_none] at member
      refine .inl ?_
      rw [reseated_eq, member]
      rfl
  · intro target
    rw [restored_eq inv]
    refine wires_foldl_replayTarget typed ?_
    have blank : (registry.reseated source).targetWireIds.get? target = none := by
      rw [reseated_eq]
      rfl
    by_cases member : target ∈ source.targetRoutes.entries.map Prod.fst
    · exact .inr ⟨blank, member⟩
    · rw [routed] at member
      have unknown := Option.not_isSome_iff_eq_none.mp (mt (inv.wired target) member)
      exact .inl (blank.trans unknown.symm)

/-- A session comes back linked to its latest target only. -/
theorem listings_restored (inv : source.Invariant) (registry : Registry) (key : SessionKey) :
    (registry.restored source).listings key = (source.sessionTarget key).toList := by
  have links : (registry.restored source).targetSessions =
      (registry.reseated source).targetSessions := by
    rw [restored_eq inv, foldl_replayTarget (typed_entries inv)]
  have blank (other : SessionKey) : registry.cleared.listings other = [] := rfl
  unfold listings
  rw [links]
  by_cases member : key ∈ source.sessionRoutes.entries.map Prod.fst
  · exact listings_foldl_replaySession source.sessionRoutes.nodup member
      fun item _ => blank item.1
  · refine (listings_foldl_replaySession_of_not_mem member _).trans ?_
    cases named : source.sessionTarget key with
    | none => exact blank key
    | some target =>
      have link := mem_listings_iff.mp (sessionTarget_mem named)
      obtain ⟨owner, session, -⟩ := inv.owned target key link
      have routed := (source.sessionRoutes.mem_keys_iff key).mpr (by simp [session])
      exact absurd routed member

/-- Agreement on the maps and on the stored links is all a snapshot shows. -/
theorem Agree.bodyLocked {first second : Registry} (agree : first.Agree second)
    (stored : ∀ key, first.sessionTarget key = second.sessionTarget key) :
    first.bodyLocked = second.bodyLocked := by
  have sessions : first.sessionRecord = second.sessionRecord := by
    funext entry
    rw [sessionRecord, sessionRecord, stored]
  have targets : first.targetRecord = second.targetRecord := by
    funext entry
    rw [targetRecord, targetRecord, agree.types, agree.wires]
  have sessionConflicts : first.conflictedSessions = second.conflictedSessions :=
    congrArg (fun conflicts => (conflicts.image (·.val)).sort) agree.sessionConflicts
  have targetConflicts : first.conflictedTargets = second.conflictedTargets :=
    congrArg (fun conflicts => (conflicts.image fun target : TargetKey =>
      toLex (target.1.text, target.2.val)).sort) agree.targetConflicts
  rw [Registry.bodyLocked, Registry.bodyLocked, sessions, targets, sessionConflicts,
    targetConflicts, agree.sessions, agree.targets]

theorem sessionTarget_restored (inv : source.Invariant) (registry : Registry) (key : SessionKey) :
    (registry.restored source).sessionTarget key = source.sessionTarget key := by
  rw [sessionTarget, listings_restored inv]
  cases source.sessionTarget key <;> rfl

/-- A restored registry writes the snapshot it was restored from. -/
theorem bodyLocked_restored (inv : source.Invariant) (registry : Registry) :
    (registry.restored source).bodyLocked = source.bodyLocked :=
  (agree_restored inv registry).bodyLocked (sessionTarget_restored inv registry)

theorem linked_restored_subset (inv : source.Invariant) (registry : Registry) (target : TargetKey) :
    (registry.restored source).linked target ⊆ source.linked target := by
  intro key link
  rw [← mem_listings_iff, listings_restored inv] at link
  exact mem_listings_iff.mp (sessionTarget_mem (Option.mem_toList.mp link))

/-- Restoring a snapshot of a registry keeps the representation invariant. -/
theorem Invariant.restored (inv : source.Invariant) (registry : Registry) :
    (registry.restored source).Invariant := by
  have agree := agree_restored inv registry
  have subset := linked_restored_subset inv registry
  refine { indexed := ?_, inhabited := ?_, typed := ?_, wired := ?_, contested := ?_, listed := ?_,
           owned := ?_, silenced := ?_, bounded := ?_, limited := ?_ }
  · intro target robotId
    rw [holders_restored inv, agree.targets]
    exact inv.indexed target robotId
  · intro chatId holders found
    rw [agree.index] at found
    exact inv.inhabited chatId holders found
  · intro target
    rw [agree.types, agree.targets]
    exact inv.typed target
  · intro target
    rw [agree.wires, agree.targets]
    exact inv.wired target
  · intro target member
    rw [agree.targetConflicts] at member
    rw [agree.targets]
    exact inv.contested target member
  · intro target found
    rw [restored_eq inv, foldl_replayTarget (typed_entries inv)] at found
    rw [agree.targets]
    rcases listed_foldl_replaySession found with old | ⟨key, named⟩
    · cases old
    · obtain ⟨owner, -, routed⟩ :=
        inv.owned target key (mem_listings_iff.mp (sessionTarget_mem named))
      simp [routed]
  · intro target key link
    rw [agree.sessions, agree.targets]
    exact inv.owned target key (subset target link)
  · intro target member key link
    rw [agree.targetConflicts] at member
    rw [agree.sessionConflicts]
    exact inv.silenced target member key (subset target link)
  · rw [agree.sessions]
    exact inv.bounded
  · rw [agree.targets]
    exact inv.limited

end Registry

end OctoChannel.Identity

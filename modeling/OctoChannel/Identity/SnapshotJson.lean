import OctoChannel.Foundation.JsonRoundTrip
import OctoChannel.Identity.Restore

namespace OctoChannel.Identity

open Foundation

namespace Registry

variable {source registry : Registry}

@[simp] theorem nonemptyOfJson?_sortKeys (value : Json) :
    nonemptyOfJson? value.sortKeys = nonemptyOfJson? value := by
  cases value <;> simp [Json.sortKeys, nonemptyOfJson?]

@[simp] theorem robotId_ofJson?_sortKeys (value : Json) :
    RobotId.ofJson? value.sortKeys = RobotId.ofJson? value := by
  cases value <;> simp [Json.sortKeys, RobotId.ofJson?]

@[simp] theorem channelType_ofJson?_sortKeys (value : Json) :
    ChannelType.ofJson? value.sortKeys = ChannelType.ofJson? value := by
  cases value <;> simp [Json.sortKeys, ChannelType.ofJson?]

@[simp] theorem chatTypeIn_sortKeys (value : Json) :
    chatTypeIn value.sortKeys = chatTypeIn value := by
  cases value <;> simp [Json.sortKeys, chatTypeIn]

private theorem applySession_sortKeys {members : List (PyStr × Json)}
    (nodup : (members.map Prod.fst).Nodup) :
    applySession registry (Json.obj members).sortKeys = applySession registry (.obj members) := by
  rw [Json.sortKeys_obj]
  simp only [applySession, Json.field_sorted _ nodup, nonemptyOfJson?_sortKeys,
    robotId_ofJson?_sortKeys, chatTypeIn_sortKeys]

private theorem storedWire_sorted (chatType : ChatType) (chatId : ChatId)
    {members : List (PyStr × Json)}
    (nodup : (members.map Prod.fst).Nodup) :
    storedWire chatType chatId
        ((members.map fun member => (member.1, member.2.sortKeys)).insertionSort Json.keyLE) =
      storedWire chatType chatId members := by
  simp only [storedWire, Json.field_sorted _ nodup, Json.lookup_sorted _ nodup]
  cases Dict.lookup (py "wire_chat_id") members with
  | none => cases Json.field (py "wire_chat_id_known") members <;> simp [Json.sortKeys]
  | some wire =>
    cases Json.field (py "wire_chat_id_known") members <;> cases wire <;> simp [Json.sortKeys]

private theorem applyTarget_sortKeys {members : List (PyStr × Json)}
    (nodup : (members.map Prod.fst).Nodup) :
    applyTarget registry (Json.obj members).sortKeys = applyTarget registry (.obj members) := by
  rw [Json.sortKeys_obj]
  simp only [applyTarget, Json.field_sorted _ nodup, nonemptyOfJson?_sortKeys,
    robotId_ofJson?_sortKeys, channelType_ofJson?_sortKeys, chatTypeIn_sortKeys,
    storedWire_sorted _ _ nodup]

private theorem forEach_sortKeys {apply : Registry → Json → Applied} {records : List Json}
    (each : ∀ registry, ∀ record ∈ records, apply registry record.sortKeys = apply registry record)
    (registry : Registry) :
    forEach apply registry (records.map Json.sortKeys) = forEach apply registry records := by
  induction records generalizing registry with
  | nil => rfl
  | cons record rest ih =>
    have others := ih fun registry record member =>
      each registry record (List.mem_cons_of_mem _ member)
    rw [List.map_cons, forEach, forEach, each registry record (by simp)]
    split
    · exact others _
    · rfl

private theorem thenEach_sortKeys {apply : Registry → Json → Applied} {records : List Json}
    (each : ∀ registry, ∀ record ∈ records, apply registry record.sortKeys = apply registry record) :
    thenEach apply (records.map Json.sortKeys) = thenEach apply records := by
  funext state
  obtain ⟨registry, outcome⟩ := state
  cases outcome with
  | none => exact forEach_sortKeys each registry
  | some error => rfl

theorem sessionRecord_shape (source : Registry) (entry : SessionKey × RobotId) :
    ∃ members, source.sessionRecord entry = .obj members ∧ (members.map Prod.fst).Nodup ∧
      ∀ member ∈ members, ∃ text, member.2 = .str text := by
  unfold sessionRecord
  cases source.sessionTarget entry.1 with
  | none => exact ⟨_, rfl, by simp +decide, by simp⟩
  | some target => exact ⟨_, rfl, by simp +decide, by simp⟩

private theorem nodup_targetRecord {chatType chatId robotId channelType wire known : Json} :
    ([(py "chat_type", chatType), (py "chat_id", chatId), (py "robot_id", robotId),
      (py "channel_type", channelType), (py "wire_chat_id", wire),
      (py "wire_chat_id_known", known)].map Prod.fst).Nodup := by
  simp +decide

private theorem bodyLocked_sortKeys_members (source : Registry) :
    ∃ members, source.bodyLocked.sortKeys = .obj members ∧
      Json.field (py "sessions") members =
        .arr ((source.sessionRoutes.entries.map source.sessionRecord).map Json.sortKeys) ∧
      Json.field (py "targets") members =
        .arr ((source.targetRoutes.entries.map source.targetRecord).map Json.sortKeys) ∧
      Json.field (py "session_conflicts") members =
        .arr ((source.conflictedSessions.map Json.str).map Json.sortKeys) ∧
      Json.field (py "target_conflicts") members =
        .arr ((source.conflictedTargets.map targetConflictRecord).map Json.sortKeys) := by
  rw [bodyLocked, Json.sortKeys_obj]
  refine ⟨_, rfl, ?_, ?_, ?_, ?_⟩
  all_goals
    rw [Json.field_sorted _ (by simp +decide), ← Json.sortKeys_arr]
    rfl

/-- A reader that gets the body with sorted keys restores the same registry. -/
theorem applyBody_sortKeys (source registry : Registry) :
    registry.applyBody source.bodyLocked.sortKeys = registry.applyBody source.bodyLocked := by
  obtain ⟨members, shape, sessions, targets, sessionConflicts, targetConflicts⟩ :=
    bodyLocked_sortKeys_members source
  rw [shape, applyBody_of_lists sessions targets sessionConflicts targetConflicts, bodyLocked,
    applyBody_of_lists rfl rfl rfl rfl]
  unfold applyLists
  rw [thenEach_sortKeys, thenEach_sortKeys, thenEach_sortKeys, thenEach_sortKeys]
  · intro registry record member
    obtain ⟨entry, -, rfl⟩ := List.mem_map.mp member
    obtain ⟨members, shape, nodup, -⟩ := source.sessionRecord_shape entry
    rw [shape, applySession_sortKeys nodup]
  · intro registry record member
    obtain ⟨entry, -, rfl⟩ := List.mem_map.mp member
    exact applyTarget_sortKeys nodup_targetRecord
  · intro registry record member
    obtain ⟨text, -, rfl⟩ := List.mem_map.mp member
    rfl
  · intro registry record member
    obtain ⟨conflict, -, rfl⟩ := List.mem_map.mp member
    rfl

theorem depth_bodyLocked (source : Registry) : source.bodyLocked.depth ≤ 3 := by
  have leaf {bound : Nat} (text : PyStr) : (Json.str text).depth ≤ bound := Nat.zero_le _
  rw [bodyLocked, Json.depth_obj_le_iff]
  simp only [List.forall_mem_cons, Json.depth_arr_le_iff, List.forall_mem_map]
  refine ⟨?_, ?_, ?_, ?_, by simp⟩
  · intro entry _
    obtain ⟨members, shape, -, texts⟩ := source.sessionRecord_shape entry
    rw [shape, Json.depth_obj_le_iff]
    intro member present
    obtain ⟨text, same⟩ := texts member present
    exact same ▸ leaf text
  · intro entry _
    rw [targetRecord, Json.depth_obj_le_iff]
    simp only [List.forall_mem_cons]
    refine ⟨leaf _, leaf _, leaf _, ?_, ?_, Nat.le_refl 0, by simp⟩
    · cases source.targetChannelTypes.get? entry.1 <;> exact Nat.le_refl 0
    · cases source.targetWireIds.get? entry.1 <;> exact Nat.le_refl 0
  · exact fun text _ => leaf text
  · intro conflict _
    rw [targetConflictRecord, Json.depth_arr_le_iff]
    simp [Json.depth]

theorem readsBack_bodyLocked (runtime : Json.Runtime) (source : Registry) :
    Json.ReadsBack runtime source.bodyLocked := by
  refine .obj (by simp +decide) ?_
  simp only [List.forall_mem_cons]
  refine ⟨.arr ?_, .arr ?_, .arr ?_, .arr ?_, by simp⟩
  · simp only [List.forall_mem_map]
    intro entry _
    obtain ⟨members, shape, nodup, texts⟩ := source.sessionRecord_shape entry
    rw [shape]
    refine .obj nodup fun member present => ?_
    obtain ⟨text, same⟩ := texts member present
    exact same ▸ .str text
  · simp only [List.forall_mem_map]
    intro entry _
    refine .obj nodup_targetRecord ?_
    simp only [List.forall_mem_cons]
    refine ⟨.str _, .str _, .str _, ?_, ?_, .bool _, by simp⟩
    · cases source.targetChannelTypes.get? entry.1 with
      | none => exact .null
      | some channelType => exact .int (by cases channelType <;> decide)
    · cases source.targetWireIds.get? entry.1 with
      | none => exact .null
      | some wire => exact .str _
  · simp only [List.forall_mem_map]
    exact fun text _ => .str text
  · simp only [List.forall_mem_map]
    intro conflict _
    refine .arr ?_
    simp only [List.forall_mem_cons]
    exact ⟨.str _, .str _, by simp⟩

end Registry

end OctoChannel.Identity

import OctoChannel.Foundation.Generations
import OctoChannel.Foundation.JsonEncodable
import OctoChannel.Identity.Behaviour

/-! Durable documents: schema, checksum and body in one JSON file, and the route
snapshot files of a registry. `sha256` and the limits of the JSON runtime are
parameters throughout. -/

namespace OctoChannel.Identity

open Foundation

variable (runtime : Json.Runtime) (sha256 : Bytes → Bytes)

def hexdigest (digest : Bytes) : PyStr :=
  digest.flatMap fun byte => [Json.hexDigit (byte.toNat / 16), Json.hexDigit (byte.toNat % 16)]

/-- `_checksum`: the strict encoder raises on a lone surrogate. -/
def checksum (body : Json) : Except PyError PyStr :=
  match Json.dumps runtime body with
  | .error error => .error error
  | .ok text =>
    match utf8Encode text with
    | none => .error .unicodeError
    | some encoded => .ok (hexdigest (sha256 encoded))

def document (sum : PyStr) (body : Json) : Json :=
  .obj [(py "schema", .int 1), (py "checksum", .str sum), (py "body", body)]

/-- The bytes that `write_state_document` puts into the file. -/
def documentBytes (body : Json) : Except PyError Bytes :=
  match checksum runtime sha256 body with
  | .error error => .error error
  | .ok sum =>
    match Json.dumps runtime (document sum body) with
    | .error error => .error error
    | .ok text =>
      match utf8Encode text with
      | none => .error .unicodeError
      | some encoded => .ok encoded

/-- A file that exists: its bytes, or an `OSError` on reading it. -/
inductive FileContent where
  | unreadable
  | bytes (content : Bytes)
  deriving DecidableEq

/-- `schema == STATE_SCHEMA_VERSION`, by Python's equality of numbers. -/
def isSchemaVersion : Json → Bool
  | .int value => value = 1
  | .bool value => value
  | .float text => text = "1.0"
  | _ => false

/-- `read_state_document`: only a missing file, an `OSError` and a `ValueError` of
the JSON reader are caught. -/
def readStateDocument : Option FileContent → Except PyError Registry.Reading
  | none => .ok .missing
  | some .unreadable => .ok .corrupt
  | some (.bytes content) =>
    match utf8Decode content with
    | none => .error .unicodeError
    | some text =>
      match Json.loads runtime text with
      | .error .malformed => .ok .corrupt
      | .error .tooDeep => .error .recursionError
      | .ok (.obj members) =>
        if !isSchemaVersion (Json.field (py "schema") members) then .ok .unsupported
        else
          match checksum runtime sha256 (Json.field (py "body") members) with
          | .error error => .error error
          | .ok sum =>
            match Json.field (py "checksum") members with
            | .str stored =>
              if stored = sum then .ok (.ok (Json.field (py "body") members)) else .ok .corrupt
            | _ => .ok .corrupt
      | .ok _ => .ok .corrupt

variable {runtime sha256} {body : Json} {content : Bytes}

/-- The checksum is taken over the sorted text, so sorting changes nothing. -/
private theorem checksum_sortKeys (shallow : body.depth ≤ runtime.dumpsDepth) :
    checksum runtime sha256 body.sortKeys = checksum runtime sha256 body := by
  unfold checksum Json.dumps
  rw [if_pos shallow, if_pos (Json.depth_sortKeys_le shallow), Json.sortKeys_idempotent]

/-- A document that was written reads back as its body with sorted keys. -/
theorem readStateDocument_documentBytes (good : Json.ReadsBack runtime body)
    (shallow : body.depth + 1 ≤ runtime.loadsDepth)
    (written : documentBytes runtime sha256 body = .ok content) :
    readStateDocument runtime sha256 (some (.bytes content)) = .ok (.ok body.sortKeys) := by
  unfold documentBytes at written
  cases summed : checksum runtime sha256 body with
  | error error => simp [summed] at written
  | ok sum =>
    cases printed : Json.dumps runtime (document sum body) with
    | error error => simp [summed, printed] at written
    | ok text =>
      cases encoded : utf8Encode text with
      | none => simp [summed, printed, encoded] at written
      | some bytes =>
        simp only [summed, printed, encoded, Except.ok.injEq] at written
        subst written
        have shallow' : body.depth ≤ runtime.dumpsDepth := by
          by_contra deep
          simp [checksum, Json.dumps, deep] at summed
        have nodup : ([(py "schema", Json.int 1), (py "checksum", .str sum),
            (py "body", body)].map Prod.fst).Nodup := by
          simp +decide
        have whole : Json.ReadsBack runtime (document sum body) := by
          refine .obj nodup ?_
          simp only [List.forall_mem_cons]
          exact ⟨.int (by decide), .str sum, good, by simp⟩
        have depth : (document sum body).depth ≤ runtime.loadsDepth := by
          refine le_trans ?_ shallow
          rw [document, Json.depth_obj_le_iff]
          simp [Json.depth]
        have loaded := Json.loads_dumps whole depth printed
        rw [document, Json.sortKeys_obj] at loaded
        simp only [readStateDocument, utf8Decode_of_encode encoded, loaded]
        simp only [Json.field_sorted _ nodup]
        have fields : Json.field (py "schema") [(py "schema", Json.int 1),
              (py "checksum", .str sum), (py "body", body)] = .int 1 ∧
            Json.field (py "checksum") [(py "schema", Json.int 1),
              (py "checksum", .str sum), (py "body", body)] = .str sum ∧
            Json.field (py "body") [(py "schema", Json.int 1),
              (py "checksum", .str sum), (py "body", body)] = body := ⟨rfl, rfl, rfl⟩
        rw [fields.1, fields.2.1, fields.2.2, checksum_sortKeys shallow', summed]
        simp [Json.sortKeys, isSchemaVersion]

private theorem encodable_hexdigest (digest : Bytes) : Encodable (hexdigest digest) := by
  intro point member
  obtain ⟨byte, -, digits⟩ := List.mem_flatMap.mp member
  have small : byte.toNat < 256 := byte.toNat_lt
  simp only [List.mem_cons, List.not_mem_nil, or_false] at digits
  rcases digits with rfl | rfl
  · exact Json.toChar?_hexDigit (by omega)
  · exact Json.toChar?_hexDigit (by omega)

/-- A shallow body without lone surrogates gets a document. -/
theorem documentBytes_ok (sha256 : Bytes → Bytes) (scalar : body.Scalar)
    (shallow : body.depth + 1 ≤ runtime.dumpsDepth) :
    ∃ content, documentBytes runtime sha256 body = .ok content := by
  obtain ⟨encoded, printed⟩ : ∃ encoded, utf8Encode body.sortKeys.print = some encoded :=
    Option.isSome_iff_exists.mp ((utf8Encode_isSome_iff _).mpr scalar.textEncodable)
  have whole : (document (hexdigest (sha256 encoded)) body).Scalar := by
    refine .obj ?_ ?_
    · simp only [List.forall_mem_cons]
      exact ⟨encodable_py _, encodable_py _, encodable_py _, by simp⟩
    · simp only [List.forall_mem_cons]
      exact ⟨.int 1, .str (encodable_hexdigest _), scalar, by simp⟩
  have depth : (document (hexdigest (sha256 encoded)) body).depth ≤ runtime.dumpsDepth := by
    refine le_trans ?_ shallow
    rw [document, Json.depth_obj_le_iff]
    simp [Json.depth]
  obtain ⟨content, written⟩ : ∃ content, utf8Encode
      (document (hexdigest (sha256 encoded)) body).sortKeys.print = some content :=
    Option.isSome_iff_exists.mp ((utf8Encode_isSome_iff _).mpr whole.textEncodable)
  refine ⟨content, ?_⟩
  simp only [documentBytes, checksum, Json.dumps, if_pos (le_trans (Nat.le_succ _) shallow),
    printed, if_pos depth, written]

private theorem scalar_of_isAsciiAlnum {point : CodePoint} (letter : isAsciiAlnum point = true) :
    point.toChar?.isSome := by
  refine Json.toChar?_of_lt ?_
  simp only [isAsciiAlnum, Bool.or_eq_true, Bool.and_eq_true, decide_eq_true_eq] at letter
  omega

theorem encodable_robotId (robotId : RobotId) : Encodable robotId.val := by
  intro point member
  have valid := robotId.property
  simp only [validRobotId, Bool.and_eq_true, List.all_eq_true, Bool.or_eq_true,
    decide_eq_true_eq] at valid
  rcases valid.2 point member with ((((letter | rfl) | rfl) | rfl) | rfl) | rfl
  · exact scalar_of_isAsciiAlnum letter
  · simp
  · simp
  · simp
  · simp
  · simp

private theorem encodable_wireChatId (wire : WireChatId) : Encodable wire.val := by
  intro point member
  have valid := wire.property
  simp only [validWireChatId, Bool.and_eq_true, List.all_eq_true, Bool.or_eq_true,
    decide_eq_true_eq] at valid
  rcases valid.2 point member with (((letter | rfl) | rfl) | rfl) | rfl
  · exact scalar_of_isAsciiAlnum letter
  · simp
  · simp
  · simp
  · simp

theorem encodable_chatType (chatType : ChatType) : Encodable chatType.text := by
  cases chatType with
  | dm => exact encodable_py "dm"
  | group => exact encodable_py "group"

namespace Registry

/-- No session key and no chat id of the registry holds a lone surrogate. -/
structure Printable (registry : Registry) : Prop where
  sessions : ∀ key, (registry.sessionRoutes.get? key).isSome → Encodable key.val
  targets : ∀ target, (registry.targetRoutes.get? target).isSome → Encodable target.2.val
  sessionConflicts : ∀ key ∈ registry.sessionConflicts, Encodable key.val

variable {registry : Registry}

private theorem scalar_sessionRecord (inv : registry.Invariant) (printable : registry.Printable)
    {entry : SessionKey × RobotId} (member : entry ∈ registry.sessionRoutes.entries) :
    (registry.sessionRecord entry).Scalar := by
  have routed := (registry.sessionRoutes.mem_entries_iff entry.1 entry.2).mp member
  have key := printable.sessions entry.1 (Option.isSome_of_eq_some routed)
  have robot := encodable_robotId entry.2
  unfold sessionRecord
  cases latest : registry.sessionTarget entry.1 with
  | none =>
    refine .obj ?_ ?_
    · simp [encodable_py]
    · simp only [List.append_nil, List.forall_mem_cons]
      exact ⟨.str key, .str robot, by simp⟩
  | some target =>
    obtain ⟨_, _, owned⟩ := inv.owned target entry.1
      (mem_listings_iff.mp (sessionTarget_mem latest))
    have chat := printable.targets target (Option.isSome_of_eq_some owned)
    refine .obj ?_ ?_
    · simp [encodable_py]
    · simp only [List.cons_append, List.nil_append, List.forall_mem_cons]
      exact ⟨.str key, .str robot, .str (encodable_chatType _), .str chat, by simp⟩

private theorem scalar_targetRecord (printable : registry.Printable)
    {entry : TargetKey × RobotId} (member : entry ∈ registry.targetRoutes.entries) :
    (registry.targetRecord entry).Scalar := by
  have routed := (registry.targetRoutes.mem_entries_iff entry.1 entry.2).mp member
  have chat := printable.targets entry.1 (Option.isSome_of_eq_some routed)
  refine .obj (by simp [encodable_py]) ?_
  simp only [List.forall_mem_cons]
  refine ⟨.str (encodable_chatType _), .str chat, .str (encodable_robotId entry.2), ?_, ?_,
    .bool _, by simp⟩
  · cases registry.targetChannelTypes.get? entry.1 with
    | none => exact .null
    | some channelType => exact .int _
  · cases registry.targetWireIds.get? entry.1 with
    | none => exact .null
    | some wire => exact .str (encodable_wireChatId wire)

private theorem scalar_bodyLocked (inv : registry.Invariant) (printable : registry.Printable) :
    registry.bodyLocked.Scalar := by
  refine .obj (by simp [encodable_py]) ?_
  simp only [List.forall_mem_cons]
  refine ⟨.arr ?_, .arr ?_, .arr ?_, .arr ?_, by simp⟩
  · simp only [List.forall_mem_map]
    exact fun entry member => scalar_sessionRecord inv printable member
  · simp only [List.forall_mem_map]
    exact fun entry member => scalar_targetRecord printable member
  · simp only [List.forall_mem_map]
    intro text member
    simp only [conflictedSessions, Finset.mem_sort, Finset.mem_image] at member
    obtain ⟨key, marked, rfl⟩ := member
    exact .str (printable.sessionConflicts key marked)
  · simp only [List.forall_mem_map]
    intro conflict member
    simp only [conflictedTargets, Finset.mem_sort, Finset.mem_image] at member
    obtain ⟨target, marked, rfl⟩ := member
    refine .arr ?_
    simp only [List.forall_mem_cons]
    exact ⟨.str (encodable_chatType _), .str (printable.targets target (inv.contested target marked)),
      by simp⟩

/-- Such a registry can be saved. -/
theorem documentBytes_bodyLocked (runtime : Json.Runtime) (sha256 : Bytes → Bytes)
    (inv : registry.Invariant) (printable : registry.Printable) :
    ∃ content, documentBytes runtime sha256 registry.bodyLocked = .ok content := by
  refine documentBytes_ok sha256 (scalar_bodyLocked inv printable) ?_
  have depth := registry.depth_bodyLocked
  have room := runtime.dumpsRoom
  omega

end Registry

end OctoChannel.Identity

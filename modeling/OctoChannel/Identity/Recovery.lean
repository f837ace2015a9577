import OctoChannel.Identity.Documents

namespace OctoChannel.Identity

open Foundation

namespace Registry

/-- The contents on which `read_state_document` does not raise: text that decodes,
nested no deeper than the parser goes, and a body that can be hashed again. -/
def Readable (runtime : Json.Runtime) : Option FileContent → Prop
  | none => True
  | some .unreadable => True
  | some (.bytes content) =>
    match utf8Decode content with
    | none => False
    | some text =>
      match Json.loads runtime text with
      | .error .malformed => True
      | .error .tooDeep => False
      | .ok (.obj members) => isSchemaVersion (Json.field (py "schema") members) = true →
        (Json.field (py "body") members).depth ≤ runtime.dumpsDepth ∧
          (Json.field (py "body") members).TextEncodable
      | .ok _ => True

variable {runtime : Json.Runtime} {sha256 : Bytes → Bytes}

private theorem checksum_ok_iff {body : Json} : (∃ sum, checksum runtime sha256 body = .ok sum) ↔
    body.depth ≤ runtime.dumpsDepth ∧ body.TextEncodable := by
  unfold checksum Json.dumps Json.TextEncodable
  rw [← utf8Encode_isSome_iff]
  by_cases shallow : body.depth ≤ runtime.dumpsDepth
  · simp only [shallow, if_true, true_and]
    cases utf8Encode body.sortKeys.print <;> simp
  · simp [shallow]

theorem readStateDocument_ok_iff {file : Option FileContent} :
    (∃ reading, readStateDocument runtime sha256 file = .ok reading) ↔ Readable runtime file := by
  rcases file with _ | _ | content
  · exact iff_of_true ⟨.missing, rfl⟩ trivial
  · exact iff_of_true ⟨.corrupt, rfl⟩ trivial
  · unfold readStateDocument Readable
    dsimp only
    cases utf8Decode content with
    | none => simp
    | some text =>
      dsimp only
      rcases Json.loads runtime text with (_ | _) | value
      · exact iff_of_true ⟨.corrupt, rfl⟩ trivial
      · simp
      · cases value with
        | obj members =>
          dsimp only
          cases schema : isSchemaVersion (Json.field (py "schema") members) with
          | false => exact iff_of_true ⟨.unsupported, rfl⟩ (fun never => by cases never)
          | true =>
            rw [← @checksum_ok_iff runtime sha256]
            cases checksum runtime sha256 (Json.field (py "body") members) with
            | error error => simp
            | ok sum =>
              refine iff_of_true ?_ fun _ => ⟨sum, rfl⟩
              dsimp only
              split
              · cases ‹(!true) = true›
              · split
                · split
                  · exact ⟨_, rfl⟩
                  · exact ⟨_, rfl⟩
                · exact ⟨_, rfl⟩
        | null | bool | int | float | str | arr => exact iff_of_true ⟨.corrupt, rfl⟩ trivial

/-- The file is a valid document with this body: schema 1 and the body's checksum. -/
def Stores (runtime : Json.Runtime) (sha256 : Bytes → Bytes) (body : Json) :
    Option FileContent → Prop
  | some (.bytes content) => ∃ text members sum, utf8Decode content = some text ∧
    Json.loads runtime text = .ok (.obj members) ∧
    isSchemaVersion (Json.field (py "schema") members) = true ∧
    Json.field (py "body") members = body ∧
    checksum runtime sha256 body = .ok sum ∧ Json.field (py "checksum") members = .str sum
  | _ => False

theorem readStateDocument_eq_ok_iff {file : Option FileContent} {body : Json} :
    readStateDocument runtime sha256 file = .ok (.ok body) ↔ Stores runtime sha256 body file := by
  constructor
  · intro read
    rcases file with _ | _ | content
    · cases read
    · cases read
    · unfold readStateDocument at read
      dsimp only at read
      split at read
      · cases read
      · rename_i text decoded
        split at read
        · cases read
        · cases read
        · rename_i members parsed
          split at read
          · cases read
          · rename_i schema
            split at read
            · cases read
            · rename_i sum summed
              split at read
              · rename_i stored field
                split at read
                · rename_i same
                  cases read
                  exact ⟨text, members, sum, decoded, parsed, by simpa using schema, rfl, summed,
                    same ▸ field⟩
                · cases read
              · cases read
        · cases read
  · intro stores
    rcases file with _ | _ | content
    · exact stores.elim
    · exact stores.elim
    · obtain ⟨text, members, sum, decoded, parsed, schema, rfl, summed, field⟩ := stores
      simp [readStateDocument, decoded, parsed, schema, summed, field]

/-- A value that `in _CHAT_TYPES` can hash. -/
def hashable : Json → Bool
  | .arr _ => false
  | .obj _ => false
  | _ => true

def SessionReadable : Json → Prop
  | .obj record => (nonemptyOfJson? (Json.field (py "session_key") record)).isSome →
    (RobotId.ofJson? (Json.field (py "robot_id") record)).isSome →
      hashable (Json.field (py "chat_type") record) = true
  | _ => True

def TargetReadable : Json → Prop
  | .obj record => hashable (Json.field (py "chat_type") record) = true
  | _ => True

def TargetConflictReadable : Json → Prop
  | .arr [chatType, _] => hashable chatType = true
  | _ => True

/-- A member of the body that can be iterated, over records that can be read. -/
def Listed (name : String) (readable : Json → Prop) (members : List (PyStr × Json)) : Prop :=
  ∃ records, iterate (Json.field (py name) members) = .ok records ∧
    ∀ record ∈ records, readable record

/-- The bodies that `_apply_body` gets through. -/
def Applicable : Json → Prop
  | .obj members => Listed "sessions" SessionReadable members ∧
    Listed "targets" TargetReadable members ∧
    Listed "session_conflicts" (fun _ => True) members ∧
    Listed "target_conflicts" TargetConflictReadable members
  | _ => True

theorem chatTypeIn_ok_iff {value : Json} :
    (∃ chatType, chatTypeIn value = .ok chatType) ↔ hashable value = true := by
  cases value <;> simp [chatTypeIn, hashable]

private theorem applySession_ok_iff {record : Json} {registry : Registry} :
    (applySession registry record).2 = none ↔ SessionReadable record := by
  cases record with
  | obj record =>
    unfold applySession SessionReadable
    dsimp only
    rw [← chatTypeIn_ok_iff]
    cases nonemptyOfJson? (Json.field (py "session_key") record) with
    | none => simp
    | some key =>
      cases RobotId.ofJson? (Json.field (py "robot_id") record) with
      | none => simp
      | some robotId =>
        dsimp only
        rcases chatTypeIn (Json.field (py "chat_type") record) with error | _ | chatType
        · simp
        · simp
        · cases nonemptyOfJson? (Json.field (py "chat_id") record) <;> simp
  | null | bool | int | float | str | arr => exact iff_of_true rfl trivial

private theorem applyTarget_ok_iff {record : Json} {registry : Registry} :
    (applyTarget registry record).2 = none ↔ TargetReadable record := by
  cases record with
  | obj record =>
    unfold applyTarget TargetReadable
    dsimp only
    rw [← chatTypeIn_ok_iff]
    rcases chatTypeIn (Json.field (py "chat_type") record) with error | _ | chatType
    · simp
    · simp
    · refine iff_of_true ?_ ⟨_, rfl⟩
      dsimp only
      split
      · split
        · rfl
        · rfl
      · rfl
  | null | bool | int | float | str | arr => exact iff_of_true rfl trivial

private theorem applySessionConflict_ok (registry : Registry) (record : Json) :
    (applySessionConflict registry record).2 = none := by
  unfold applySessionConflict
  split
  · rfl
  · rfl

private theorem applyTargetConflict_ok_iff {record : Json} {registry : Registry} :
    (applyTargetConflict registry record).2 = none ↔ TargetConflictReadable record := by
  by_cases pair : ∃ chatType chatId, record = .arr [chatType, chatId]
  · obtain ⟨chatType, chatId, same⟩ := pair
    subst same
    unfold applyTargetConflict TargetConflictReadable
    dsimp only
    rw [← chatTypeIn_ok_iff]
    rcases chatTypeIn chatType with error | _ | chatType
    · simp
    · simp
    · dsimp only
      cases nonemptyOfJson? chatId <;> simp
  · have skipped : (applyTargetConflict registry record).2 = none := by
      unfold applyTargetConflict
      split
      · exact absurd ⟨_, _, rfl⟩ pair
      · rfl
    have readable : TargetConflictReadable record := by
      unfold TargetConflictReadable
      split
      · exact absurd ⟨_, _, rfl⟩ pair
      · trivial
    exact iff_of_true skipped readable

/-- A loop gets through exactly when it gets through every record. -/
private theorem forEach_ok_iff {apply : Registry → Json → Applied} {readable : Json → Prop}
    (each : ∀ registry record, (apply registry record).2 = none ↔ readable record)
    (records : List Json) (registry : Registry) :
    (forEach apply registry records).2 = none ↔ ∀ record ∈ records, readable record := by
  induction records generalizing registry with
  | nil => simp [forEach]
  | cons record rest ih =>
    rw [List.forall_mem_cons, ← each registry record]
    unfold forEach
    rcases apply registry record with ⟨next, _ | error⟩
    · simp [ih]
    · simp

private theorem applyField_ok_iff {apply : Registry → Json → Applied} {readable : Json → Prop}
    (each : ∀ registry record, (apply registry record).2 = none ↔ readable record) (name : String)
    (members : List (PyStr × Json)) (state : Applied) :
    (applyField name apply members state).2 = none ↔
      state.2 = none ∧ Listed name readable members := by
  rcases state with ⟨registry, _ | error⟩
  · unfold applyField Listed
    cases iterate (Json.field (py name) members) with
    | error error => simp
    | ok records => simp [forEach_ok_iff each]
  · simp [applyField]

private theorem applyBody_ok_iff {body : Json} {registry : Registry} :
    (registry.applyBody body).2 = none ↔ Applicable body := by
  cases body with
  | obj members =>
    have fields : ((registry.cleared, none)
        |> applyField "sessions" applySession members
        |> applyField "targets" applyTarget members
        |> applyField "session_conflicts" applySessionConflict members
        |> applyField "target_conflicts" applyTargetConflict members).2 = none ↔
        Applicable (.obj members) := by
      rw [@applyField_ok_iff applyTargetConflict _ fun _ _ => applyTargetConflict_ok_iff,
        @applyField_ok_iff applySessionConflict (fun _ => True) fun registry record =>
          iff_of_true (applySessionConflict_ok registry record) trivial,
        @applyField_ok_iff applyTarget _ fun _ _ => applyTarget_ok_iff,
        @applyField_ok_iff applySession _ fun _ _ => applySession_ok_iff]
      simp only [Applicable, true_and, and_assoc]
    rw [← fields]
    unfold applyBody
    dsimp only
    split
    · rename_i ended
      simp [ended]
    · rename_i ended
      simp [ended]
  | null | bool | int | float | str | arr => exact iff_of_true rfl trivial

/-- The documents `load` applies: the current file's, or else the backup's. -/
def Chosen (runtime : Json.Runtime) (sha256 : Bytes → Bytes) (current backup : Option FileContent)
    (body : Json) : Prop :=
  Stores runtime sha256 body current ∨
    (∀ other, ¬ Stores runtime sha256 other current) ∧ Stores runtime sha256 body backup

/-- Neither file makes `read_state_document` raise, no `load` raises, and a current
file that is no valid document gives way to a backup that a registry wrote. -/
structure Recovers (runtime : Json.Runtime) (sha256 : Bytes → Bytes)
    (current backup : Option FileContent) : Prop where
  currentRead : ∃ reading, readStateDocument runtime sha256 current = .ok reading
  backupRead : ∃ reading, readStateDocument runtime sha256 backup = .ok reading
  loads : ∀ registry : Registry, (registry.load (readStateDocument runtime sha256 current)
    (readStateDocument runtime sha256 backup)).2 = none
  restores : (∀ body, ¬ Stores runtime sha256 body current) →
    ∀ source : Registry, source.Reachable → ∀ content,
      documentBytes runtime sha256 source.bodyLocked = .ok content →
      backup = some (.bytes content) →
      ∀ registry : Registry, (registry.load (readStateDocument runtime sha256 current)
        (readStateDocument runtime sha256 backup)).1.Agree source

/-- With both files read, `load` ends well exactly when the chosen body can be applied. -/
theorem load_ok_iff {current backup : Option FileContent}
    (currentRead : ∃ reading, readStateDocument runtime sha256 current = .ok reading)
    (backupRead : ∃ reading, readStateDocument runtime sha256 backup = .ok reading)
    (registry : Registry) :
    (registry.load (readStateDocument runtime sha256 current)
        (readStateDocument runtime sha256 backup)).2 = none ↔
      ∀ body, Chosen runtime sha256 current backup body → Applicable body := by
  obtain ⟨reading, read⟩ := currentRead
  obtain ⟨fallback, fell⟩ := backupRead
  have chosen (body : Json) : Chosen runtime sha256 current backup body ↔
      Reading.chosen? (.ok reading) (.ok fallback) = some body := by
    unfold Chosen
    simp only [← readStateDocument_eq_ok_iff, read, fell]
    cases reading <;> cases fallback <;> simp [Reading.chosen?]
  simp only [chosen, read, fell]
  cases found : Reading.chosen? (.ok reading) (.ok fallback) with
  | some body =>
    obtain ⟨flag, loaded⟩ := load_of_chosen found registry
    rw [loaded, applyBody_ok_iff]
    simp
  | none =>
    refine iff_of_true ?_ (fun body never => by cases never)
    cases reading <;> cases fallback <;> first | rfl | cases found

/-- The snapshot document of a registry reads back as its body. -/
theorem readStateDocument_snapshot {source : Registry} {content : Bytes}
    (written : documentBytes runtime sha256 source.bodyLocked = .ok content) :
    readStateDocument runtime sha256 (some (.bytes content)) =
      .ok (.ok source.bodyLocked.sortKeys) := by
  refine readStateDocument_documentBytes (readsBack_bodyLocked runtime source) ?_ written
  have depth := source.depth_bodyLocked
  have room := runtime.loadsRoom
  omega

/-- A snapshot of a reachable registry is restored whenever its document is chosen. -/
private theorem load_backup {source : Registry} {content : Bytes} (reachable : source.Reachable)
    (written : documentBytes runtime sha256 source.bodyLocked = .ok content) {reading : Reading}
    (unusable : ∀ body, reading ≠ .ok body) (registry : Registry) :
    (registry.load (.ok reading)
      (readStateDocument runtime sha256 (some (.bytes content)))).1.Agree source := by
  have chosen : Reading.chosen? (.ok reading)
      (readStateDocument runtime sha256 (some (.bytes content))) =
        some source.bodyLocked.sortKeys := by
    rw [readStateDocument_snapshot written]
    cases reading with
    | ok body => exact absurd rfl (unusable body)
    | missing | corrupt | unsupported => rfl
  obtain ⟨fallback, loaded⟩ := load_of_chosen chosen registry
  rw [loaded, applyBody_sorted_ok reachable.invariant]
  exact agree_restored reachable.invariant _

/-- Corrupt files stop a start on exactly these contents: a file that cannot be
read without an exception, or a valid document whose body cannot be applied. -/
theorem recovers_iff (runtime : Json.Runtime) (sha256 : Bytes → Bytes)
    (current backup : Option FileContent) :
    Recovers runtime sha256 current backup ↔
      Readable runtime current ∧ Readable runtime backup ∧
        ∀ body, Chosen runtime sha256 current backup body → Applicable body := by
  constructor
  · intro recovers
    refine ⟨readStateDocument_ok_iff.mp recovers.currentRead,
      readStateDocument_ok_iff.mp recovers.backupRead, ?_⟩
    exact (load_ok_iff recovers.currentRead recovers.backupRead fresh).mp (recovers.loads fresh)
  · rintro ⟨currentReadable, backupReadable, applicable⟩
    have currentRead := (@readStateDocument_ok_iff _ sha256 _).mpr currentReadable
    have backupRead := (@readStateDocument_ok_iff _ sha256 _).mpr backupReadable
    refine { currentRead, backupRead, loads := ?_, restores := ?_ }
    · exact fun registry => (load_ok_iff currentRead backupRead registry).mpr applicable
    · rintro invalid source reachable content written rfl registry
      obtain ⟨reading, read⟩ := currentRead
      rw [read]
      refine load_backup reachable written ?_ registry
      rintro body rfl
      exact invalid body (readStateDocument_eq_ok_iff.mp read)

/-- A byte that is no UTF-8 in the current file is enough. -/
theorem undecodable_not_recovers : ¬ ∀ runtime sha256 current backup,
    Recovers runtime sha256 current backup := by
  intro always
  let runtime : Json.Runtime := ⟨1000, 1000, by decide, by decide, fun _ => "0.0"⟩
  obtain ⟨reading, read⟩ := (always runtime id (some (.bytes [0xff])) none).currentRead
  cases read

end Registry

end OctoChannel.Identity

import OctoChannel.Identity.Documents

namespace OctoChannel.Identity

open Foundation

/-- `^[…]{1,limit}$` for a class of characters. -/
def matchesClass (allowed : CodePoint → Bool) (limit : Nat) (text : PyStr) : Bool :=
  1 ≤ text.length && text.length ≤ limit && text.all allowed

def segmentChar (point : CodePoint) : Bool :=
  isAsciiAlnum point || point = ch '_' || point = ch '-'

/-- `_ROBOT_PATH_RE` -/
def robotPathPattern : PyStr → Bool := matchesClass segmentChar 64

/-- `_OWNER_ID_RE` -/
def ownerIdPattern : PyStr → Bool := matchesClass segmentChar 64

section Paths

variable (sha256 : Bytes → Bytes)

/-- `f"robot-{hashlib.sha256(text.encode('utf-8')).hexdigest()}"` -/
def digestSegment (text : PyStr) : Except PyError PyStr :=
  match utf8Encode text with
  | none => .error .unicodeError
  | some encoded => .ok (py "robot-" ++ hexdigest (sha256 encoded))

/-- `robot_path_segment` -/
def robotPathSegment (robotId : PyStr) : Except PyError PyStr :=
  if !validRobotId robotId then .error (.valueError "invalid Octo robot_id")
  else if robotPathPattern robotId then .ok robotId
  else digestSegment sha256 robotId

/-- A POSIX path: its root, if it has one, and the names below. -/
structure PurePath where
  root : PyStr
  names : List PyStr
  deriving DecidableEq

/-- The root that leading slashes stand for; exactly two of them are kept. -/
def rootOf (part : PyStr) : PyStr :=
  match (part.takeWhile (· = ch '/')).length with
  | 0 => []
  | 2 => py "//"
  | _ => py "/"

/-- `path / part` -/
def PurePath.join (path : PurePath) (part : PyStr) : PurePath :=
  let names := (part.splitOn (ch '/')).filter fun name => name ≠ [] ∧ name ≠ py "."
  if rootOf part = [] then ⟨path.root, path.names ++ names⟩ else ⟨rootOf part, names⟩

/-- `owner_path` of `FileEventCursorStore.__init__`. -/
def ownerPath (ownerId : PyStr) : Except PyError PyStr :=
  if ownerIdPattern ownerId then .ok ownerId else digestSegment sha256 ownerId

/-- The path of `FileEventCursorStore.__init__`. -/
def cursorStorePath (baseDir : PurePath) (ownerId : PyStr) : Except PyError PurePath :=
  if strip ownerId = [] then .error (.valueError "invalid Octo owner id")
  else do
    let owner ← ownerPath sha256 ownerId
    return (baseDir.join owner).join (py "events.cursor.json")

/-- The path of `CardBindingStore.__init__`. -/
def cardBindingPath (baseDir : PurePath) (robotId : PyStr) : Except PyError PurePath :=
  if !validRobotId robotId then .error (.valueError "invalid Octo robot_id")
  else do
    let segment ← robotPathSegment sha256 robotId
    return (baseDir.join segment).join (py "card-sessions.json")

end Paths

/-- One name of a path, with nothing in it that has a meaning to a file system. -/
structure SafeComponent (name : PyStr) : Prop where
  nonempty : name ≠ []
  plain : ∀ point ∈ name, segmentChar point = true
  short : name.length ≤ 255

theorem segmentChar_ne {point mark : CodePoint} (plain : segmentChar point = true)
    (other : segmentChar mark = false) : point ≠ mark := by
  rintro rfl
  rw [plain] at other
  cases other

/-- A name without a slash is appended. -/
theorem join_name {name : PyStr} (nonempty : name ≠ []) (noSlash : ch '/' ∉ name)
    (named : name ≠ py ".") (path : PurePath) :
    path.join name = ⟨path.root, path.names ++ [name]⟩ := by
  have whole : name.splitOn (ch '/') = [name] := List.splitOn_eq_singleton noSlash
  obtain ⟨first, rest, rfl⟩ := List.exists_cons_of_ne_nil nonempty
  have start : first ≠ ch '/' := fun same => noSlash (same ▸ List.mem_cons_self)
  have root : rootOf (first :: rest) = [] := by
    rw [rootOf, List.takeWhile_cons_of_neg (by simpa using start)]
    rfl
  simp [PurePath.join, root, whole, named]

theorem SafeComponent.join {name : PyStr} (safe : SafeComponent name) (path : PurePath) :
    path.join name = ⟨path.root, path.names ++ [name]⟩ := by
  apply join_name safe.nonempty
  · intro member
    exact segmentChar_ne (safe.plain _ member) (by decide) rfl
  · rintro rfl
    exact segmentChar_ne (safe.plain (ch '.') List.mem_cons_self) (by decide) rfl

theorem SafeComponent.join_file {name file : PyStr} (safe : SafeComponent name)
    (nonempty : file ≠ []) (noSlash : ch '/' ∉ file) (named : file ≠ py ".") (path : PurePath) :
    (path.join name).join file = ⟨path.root, path.names ++ [name, file]⟩ := by
  rw [safe.join, join_name nonempty noSlash named, List.append_assoc]
  rfl

theorem matchesClass_iff {allowed : CodePoint → Bool} {limit : Nat} {text : PyStr} :
    matchesClass allowed limit text = true ↔
      1 ≤ text.length ∧ text.length ≤ limit ∧ ∀ point ∈ text, allowed point = true := by
  simp [matchesClass, and_assoc]

/-- A spelled segment stands for itself. -/
private theorem safe_of_pattern {text : PyStr} (spelled : robotPathPattern text = true) :
    SafeComponent text := by
  obtain ⟨filled, short, plain⟩ := matchesClass_iff.mp spelled
  exact ⟨List.ne_nil_of_length_pos filled, plain, by omega⟩

private theorem length_hexdigest (digest : Bytes) :
    (hexdigest digest).length = 2 * digest.length := by
  induction digest with
  | nil => rfl
  | cons byte rest ih =>
    rw [hexdigest, List.flatMap_cons, ← hexdigest, List.length_append, ih]
    simp only [List.length_cons, List.length_nil]
    omega

theorem hexDigit_inj : ∀ first < 16, ∀ second < 16,
    Json.hexDigit first = Json.hexDigit second → first = second := by
  decide

private theorem hexdigest_inj {first second : Bytes} (same : hexdigest first = hexdigest second) :
    first = second := by
  induction first generalizing second with
  | nil =>
    cases second with
    | nil => rfl
    | cons byte rest => cases same
  | cons byte rest ih =>
    cases second with
    | nil => cases same
    | cons other later =>
      rw [hexdigest, hexdigest, List.flatMap_cons, List.flatMap_cons, ← hexdigest, ← hexdigest] at same
      simp only [List.cons_append, List.nil_append, List.cons.injEq] at same
      obtain ⟨high, low, tail⟩ := same
      have one := byte.toNat_lt
      have two := other.toNat_lt
      have upper := hexDigit_inj _ (by omega) _ (by omega) high
      have lower := hexDigit_inj _ (by omega) _ (by omega) low
      have equal : byte = other := UInt8.toNat_inj.mp (by omega)
      rw [equal, ih tail]

theorem segmentChar_hexDigit : ∀ value < 16, segmentChar (Json.hexDigit value) = true := by
  decide

private theorem segmentChar_hexdigest (digest : Bytes) :
    ∀ point ∈ hexdigest digest, segmentChar point = true := by
  intro point member
  obtain ⟨byte, _, shown⟩ := List.mem_flatMap.mp member
  have small := byte.toNat_lt
  rcases List.mem_cons.mp shown with rfl | last
  · exact segmentChar_hexDigit _ (by omega)
  · rw [List.mem_singleton.mp last]
    exact segmentChar_hexDigit _ (by omega)

section Digests

variable {sha256 : Bytes → Bytes} (digestLength : ∀ content, (sha256 content).length = 32)

include digestLength

/-- The prefix and 64 digits: no spelled segment is as long. -/
theorem length_digestName (content : Bytes) :
    (py "robot-" ++ hexdigest (sha256 content)).length = 70 := by
  rw [List.length_append, length_hexdigest, digestLength]
  rfl

private theorem safe_digestName (content : Bytes) :
    SafeComponent (py "robot-" ++ hexdigest (sha256 content)) := by
  have long := length_digestName digestLength content
  refine ⟨List.ne_nil_of_length_pos (by omega), ?_, by omega⟩
  intro point member
  rcases List.mem_append.mp member with front | digits
  · have every : (py "robot-").all segmentChar = true := by decide
    exact List.all_eq_true.mp every point front
  · exact segmentChar_hexdigest _ point digits

end Digests

/-- SHA-256 tells the two ids apart. -/
def NoCollision (sha256 : Bytes → Bytes) (robot other : RobotId) : Prop :=
  ∀ first second, utf8Encode robot.val = some first → utf8Encode other.val = some second →
    sha256 first = sha256 second → robot = other

variable {sha256 : Bytes → Bytes}

/-- A segment is the id itself, or a digest of it that is longer than any id that is kept. -/
theorem robotPathSegment_cases (robot : RobotId) :
    (robotPathPattern robot.val = true ∧
      robotPathSegment sha256 robot.val = .ok robot.val) ∨
    (robotPathPattern robot.val = false ∧ ∃ encoded, utf8Encode robot.val = some encoded ∧
      robotPathSegment sha256 robot.val = .ok (py "robot-" ++ hexdigest (sha256 encoded))) := by
  rw [robotPathSegment, if_neg (by simp [robot.property])]
  cases spelled : robotPathPattern robot.val with
  | true => exact .inl ⟨rfl, rfl⟩
  | false =>
    obtain ⟨encoded, known⟩ := Option.isSome_iff_exists.mp
      ((utf8Encode_isSome_iff robot.val).mpr (encodable_robotId robot))
    refine .inr ⟨rfl, encoded, known, ?_⟩
    rw [if_neg (by simp), digestSegment, known]

/-- No character of an id is white space, so that the cursor store takes it as an owner. -/
private theorem strip_robotId (robot : RobotId) : strip robot.val ≠ [] := by
  have valid := robot.property
  simp only [validRobotId, Bool.and_eq_true, decide_eq_true_eq, List.all_eq_true] at valid
  obtain ⟨point, rest, shape⟩ := List.exists_cons_of_length_pos valid.1.1
  have allowed := valid.2 point (shape ▸ List.mem_cons_self)
  have visible : point.isWhitespace = false := by
    simp only [isAsciiAlnum, Bool.or_eq_true, Bool.and_eq_true, decide_eq_true_eq] at allowed
    simp only [CodePoint.isWhitespace, decide_eq_false_iff_not]
    rcases allowed with ((((alnum | rfl) | rfl) | rfl) | rfl) | rfl
    · omega
    · decide
    · decide
    · decide
    · decide
    · decide
  rw [shape]
  exact strip_ne_nil visible rest

/-- The directory of an identity, in which both of its files lie. -/
structure Located (sha256 : Bytes → Bytes) (robot : RobotId) (name : PyStr) : Prop where
  segment : robotPathSegment sha256 robot.val = .ok name
  safe : SafeComponent name
  cursor : ∀ baseDir : PurePath, cursorStorePath sha256 baseDir robot.val =
    .ok ⟨baseDir.root, baseDir.names ++ [name, py "events.cursor.json"]⟩
  bindings : ∀ baseDir : PurePath, cardBindingPath sha256 baseDir robot.val =
    .ok ⟨baseDir.root, baseDir.names ++ [name, py "card-sessions.json"]⟩

/-- Both stores take the segment of the id. -/
theorem located_of_segment {robot : RobotId} {name : PyStr}
    (segment : robotPathSegment sha256 robot.val = .ok name) (safe : SafeComponent name) :
    Located sha256 robot name := by
  refine ⟨segment, safe, fun baseDir => ?_, fun baseDir => ?_⟩
  · have owner : ownerPath sha256 robot.val = .ok name := by
      rw [robotPathSegment, if_neg (by simp [robot.property])] at segment
      exact segment
    rw [cursorStorePath, if_neg (strip_robotId robot), owner,
      ← safe.join_file (by decide) (by decide) (by decide)]
    rfl
  · rw [cardBindingPath, if_neg (by simp [robot.property]), segment,
      ← safe.join_file (by decide) (by decide) (by decide)]
    rfl

theorem located (digestLength : ∀ content, (sha256 content).length = 32) (robot : RobotId) :
    ∃ name, Located sha256 robot name := by
  rcases @robotPathSegment_cases sha256 robot with ⟨spelled, segment⟩ | ⟨_, encoded, _, segment⟩
  · exact ⟨_, located_of_segment segment (safe_of_pattern spelled)⟩
  · exact ⟨_, located_of_segment segment (safe_digestName digestLength encoded)⟩

/-- A kept id is never as long as a digest, and equal digests come from equal ids. -/
theorem robotPathSegment_inj (digestLength : ∀ content, (sha256 content).length = 32)
    {robot other : RobotId} (free : NoCollision sha256 robot other)
    (same : robotPathSegment sha256 robot.val = robotPathSegment sha256 other.val) :
    robot = other := by
  have shorter : ∀ {kept : RobotId} {encoded : Bytes}, robotPathPattern kept.val = true →
      kept.val ≠ py "robot-" ++ hexdigest (sha256 encoded) := by
    intro kept encoded spelled equal
    have short := (matchesClass_iff.mp spelled).2.1
    rw [equal, length_digestName digestLength] at short
    omega
  rcases @robotPathSegment_cases sha256 robot with
    ⟨spelled, segment⟩ | ⟨_, encoded, known, segment⟩
  · rcases @robotPathSegment_cases sha256 other with ⟨_, rival⟩ | ⟨_, _, _, rival⟩
    · rw [segment, rival] at same
      exact Subtype.ext (Except.ok.inj same)
    · rw [segment, rival] at same
      exact absurd (Except.ok.inj same) (shorter spelled)
  · rcases @robotPathSegment_cases sha256 other with
      ⟨spelled, rival⟩ | ⟨_, content, found, rival⟩
    · rw [segment, rival] at same
      exact absurd (Except.ok.inj same).symm (shorter spelled)
    · rw [segment, rival] at same
      have digests := hexdigest_inj (List.append_cancel_left (Except.ok.inj same))
      exact free encoded content known found digests

/-- Two ids share no directory, no event cursor and no card bindings, and the files of one id
lie in one directory below the base. -/
theorem identityShards_apart (digestLength : ∀ content, (sha256 content).length = 32)
    (robot other : RobotId) (free : NoCollision sha256 robot other) :
    (∃ name, Located sha256 robot name) ∧
      (robotPathSegment sha256 robot.val = robotPathSegment sha256 other.val → robot = other) ∧
      ∀ baseDir,
        (cursorStorePath sha256 baseDir robot.val = cursorStorePath sha256 baseDir other.val →
          robot = other) ∧
        (cardBindingPath sha256 baseDir robot.val = cardBindingPath sha256 baseDir other.val →
          robot = other) := by
  obtain ⟨name, here⟩ := located digestLength robot
  obtain ⟨rival, there⟩ := located digestLength other
  have apart : name = rival → robot = other := by
    rintro rfl
    exact robotPathSegment_inj digestLength free (here.segment.trans there.segment.symm)
  refine ⟨⟨name, here⟩, robotPathSegment_inj digestLength free, fun baseDir => ⟨?_, ?_⟩⟩
  · intro same
    rw [here.cursor, there.cursor] at same
    apply apart
    simpa using same
  · intro same
    rw [here.bindings, there.bindings] at same
    apply apart
    simpa using same

def botId : RobotId := ⟨py "bot", by decide⟩

/-- An id with a character that no segment has. -/
def mailId : RobotId := ⟨py "a@b", by decide⟩

/-- SHA-256 of `bot` and of `a@b`. -/
def sampleSha256 (content : Bytes) : Bytes :=
  if content = [98, 111, 116] then
    [157, 116, 147, 43, 219, 111, 33, 220, 122, 178, 29, 111, 197, 38, 15, 71, 78, 13, 83, 133,
      113, 251, 167, 168, 43, 116, 255, 228, 126, 111, 154, 16]
  else
    [117, 8, 216, 181, 1, 142, 166, 64, 184, 82, 105, 134, 26, 16, 18, 3, 240, 194, 105, 0, 85, 82,
      104, 233, 48, 2, 93, 172, 132, 75, 15, 53]

theorem identityShards_apart_sample :
    (∃ name, Located sampleSha256 mailId name) ∧
      (robotPathSegment sampleSha256 mailId.val = robotPathSegment sampleSha256 botId.val →
        mailId = botId) ∧
      ∀ baseDir,
        (cursorStorePath sampleSha256 baseDir mailId.val =
          cursorStorePath sampleSha256 baseDir botId.val → mailId = botId) ∧
        (cardBindingPath sampleSha256 baseDir mailId.val =
          cardBindingPath sampleSha256 baseDir botId.val → mailId = botId) := by
  apply identityShards_apart
  · intro content
    rw [sampleSha256]
    split <;> rfl
  · intro first second one two same
    have mail : utf8Encode mailId.val = some [97, 64, 98] := by decide
    have bot : utf8Encode botId.val = some [98, 111, 116] := by decide
    cases mail.symm.trans one
    cases bot.symm.trans two
    exact absurd same (by decide)

end OctoChannel.Identity

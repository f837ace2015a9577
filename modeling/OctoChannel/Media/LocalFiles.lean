import OctoChannel.Foundation.Readers
import OctoChannel.Foundation.Json

/-! A local file on its way into a reply: the check by the host, and the read, between whose
system calls other processes may do anything to the disk. -/

namespace OctoChannel.Media

open Foundation

inductive LocalFault where
  | valueError (message : PyStr)
  | permissionError (message : PyStr)
  | runtimeError (message : PyStr)
  | osError (message : PyStr)
  deriving DecidableEq

def sourceUnavailable : LocalFault := .valueError (py "local media source is unavailable")

def mediaTooLarge (maxSize : Nat) : LocalFault :=
  .valueError (py "media exceeds the " ++ py (toString maxSize) ++ py "-byte limit")

/-- `(st_dev, st_ino)` -/
structure FileId where
  dev : Nat
  ino : Nat
  deriving DecidableEq

structure Inode where
  regular : Bool
  content : Bytes

/-- The disk at one moment. `os.open` follows a link at the end of a path where the platform
has no `O_NOFOLLOW`, and `lstat` never does. -/
structure Disk where
  lstat : PyStr → Option FileId
  opened : PyStr → Option FileId
  inode : FileId → Inode

/-- The disk when one system call runs, the text of the OSError that the call may end in, and
how many bytes a read gives at most beside one. -/
structure Moment where
  disk : Disk
  fails : Option PyStr
  most : Nat

/-- `os.read`, of a descriptor that stands at the offset. -/
def Moment.read (moment : Moment) (file : FileId) (offset count : Nat) : Bytes :=
  ((moment.disk.inode file).content.drop offset).take (min count (moment.most + 1))

/-- The loop over `os.read`; the descriptor stands behind what was read. -/
def readLoop (file : FileId) (maxSize : Nat) (world : Nat → Moment) (moment : Nat)
    (data : Bytes) : Except LocalFault Bytes :=
  if _ : data.length ≤ maxSize then
    match (world moment).fails with
    | some message => .error (.osError message)
    | none =>
      let chunk := (world moment).read file data.length
        (min (2 ^ 20) (maxSize + 1 - data.length))
      if _ : chunk = [] then .ok data
      else readLoop file maxSize world (moment + 1) (data ++ chunk)
  else .ok data
termination_by maxSize + 1 - data.length
decreasing_by
  rename_i within more
  have taken := List.length_pos_iff.mpr more
  simp only [chunk] at taken
  rw [List.length_append]
  omega

/-- What follows `os.open`: the third call is `fstat`. -/
def readDescriptor (before file : FileId) (maxSize : Nat) (world : Nat → Moment) :
    Except LocalFault Bytes :=
  match (world 2).fails with
  | some message => .error (.osError message)
  | none =>
    let opened := (world 2).disk.inode file
    if opened.regular = false ∨ file ≠ before then .error sourceUnavailable
    else if maxSize < opened.content.length then .error (mediaTooLarge maxSize)
    else
      match readLoop file maxSize world 3 [] with
      | .error fault => .error fault
      | .ok data => if maxSize < data.length then .error (mediaTooLarge maxSize) else .ok data

/-- `urlparse` as far as host and path go, `unquote`, `expanduser`, and the validator of the
installed Hermes, if it has one. -/
structure Host where
  urlparse : PyStr → Except PyStr (PyStr × PyStr)
  unquote : PyStr → PyStr
  expanduser : PyStr → Except PyStr PyStr
  validateMediaDeliveryPath : Option (PyStr → Option PyStr)

/-- `Path(path).name` -/
def pathName (path : PyStr) : PyStr :=
  ((path.splitOn (ch '/')).filter fun part => part ≠ [] && part ≠ py ".").getLast?.getD []

variable (host : Host)

/-- The path behind a `file://` URL, if it is one of this machine. -/
def localSource (source : PyStr) : Except LocalFault (Option PyStr) :=
  if py "file://" <+: source then
    match host.urlparse source with
    | .error message => .error (.valueError message)
    | .ok (netloc, path) =>
      if netloc = [] ∨ netloc = py "localhost" then .ok (some (host.unquote path)) else .ok none
  else .ok (some source)

/-- `authorize_local_media_path` -/
def authorizeLocalMediaPath (source : PyStr) : Except LocalFault (Option PyStr) :=
  if source = [] then .ok none
  else
    match localSource host source with
    | .error fault => .error fault
    | .ok none => .ok none
    | .ok (some path) =>
      .ok (host.validateMediaDeliveryPath.bind fun validate => (validate path).filter (· ≠ []))

/-- `lstat` and `os.open`, and what follows them. -/
def readCandidate (candidate : PyStr) (maxSize : Nat) (world : Nat → Moment) :
    Except LocalFault Bytes :=
  match (world 0).fails, (world 0).disk.lstat candidate with
  | none, some before =>
    if ((world 0).disk.inode before).regular then
      match (world 1).fails, (world 1).disk.opened candidate with
      | none, some file => readDescriptor before file maxSize world
      | _, _ => .error sourceUnavailable
    else .error sourceUnavailable
  | _, _ => .error sourceUnavailable

/-- `read_local_media` -/
def readLocalMedia (world : Nat → Moment) (source : PyStr) (maxSize : Nat) :
    Except LocalFault (Bytes × PyStr) :=
  match localSource host source with
  | .error fault => .error fault
  | .ok none => .error sourceUnavailable
  | .ok (some path) =>
    if path = [] ∨ maxSize = 0 then .error sourceUnavailable
    else
      match host.expanduser path with
      | .error message => .error (.runtimeError message)
      | .ok candidate =>
        (readCandidate candidate maxSize world).map fun data => (data, pathName candidate)

/-- `read_authorized_local_media` -/
def readAuthorizedLocalMedia (world : Nat → Moment) (source : PyStr) (maxSize : Nat) :
    Except LocalFault (Bytes × PyStr) :=
  match authorizeLocalMediaPath host source with
  | .error fault => .error fault
  | .ok none => .error (.permissionError (py "local media source is not authorized"))
  | .ok (some authorized) => readLocalMedia host world authorized maxSize

/-- Every byte stood at its place in the file when it was read. -/
def Seen (file : FileId) (world : Nat → Moment) (data : Bytes) : Prop :=
  ∀ (index : Nat) (byte : UInt8), data[index]? = some byte → ∃ moment, 3 ≤ moment ∧
    ((world moment).disk.inode file).content[index]? = some byte

/-- The data are what was seen of the file, to an end that it had. -/
structure ReadOf (file : FileId) (world : Nat → Moment) (maxSize : Nat) (data : Bytes) :
    Prop where
  bounded : data.length ≤ maxSize
  seen : Seen file world data
  ended : ∃ moment, 3 ≤ moment ∧ ((world moment).disk.inode file).content.length ≤ data.length

variable {file : FileId} {maxSize : Nat} {world : Nat → Moment}

theorem Seen.append {data : Bytes} (seen : Seen file world data) {moment : Nat}
    (late : 3 ≤ moment) (count : Nat) :
    Seen file world (data ++ (world moment).read file data.length count) := by
  intro index byte found
  by_cases old : index < data.length
  · rw [List.getElem?_append_left old] at found
    exact seen index byte found
  · rw [List.getElem?_append_right (not_lt.mp old), Moment.read, List.getElem?_take] at found
    split at found
    · rw [List.getElem?_drop, Nat.add_sub_cancel' (not_lt.mp old)] at found
      exact ⟨moment, late, found⟩
    · cases found

theorem length_le_of_read_nil {moment : Moment} {offset count : Nat} (some : 0 < count)
    (ended : moment.read file offset count = []) :
    (moment.disk.inode file).content.length ≤ offset := by
  rw [Moment.read, List.take_eq_nil_iff] at ended
  rcases ended with none | none
  · omega
  · exact List.drop_eq_nil_iff.mp none

/-- The loop ends behind the limit or at an end of the file. -/
private theorem readLoop_ok {moment : Nat} {data : Bytes} (late : 3 ≤ moment)
    (seen : Seen file world data) {result : Bytes}
    (read : readLoop file maxSize world moment data = .ok result) :
    Seen file world result ∧ (result.length ≤ maxSize → ReadOf file world maxSize result) := by
  fun_induction readLoop file maxSize world moment data with
  | case1 moment data within message failed => cases read
  | case2 moment data within quiet chunk ended =>
    cases read
    refine ⟨seen, fun bounded => ⟨bounded, seen, moment, late, ?_⟩⟩
    exact length_le_of_read_nil (by omega) ended
  | case3 moment data within quiet chunk more ih =>
    exact ih (by omega) (seen.append late _) read
  | case4 moment data beyond =>
    cases read
    exact ⟨seen, fun bounded => absurd bounded beyond⟩

/-- What comes from a descriptor comes from the file that was looked at. -/
private theorem readDescriptor_ok {before : FileId} {data : Bytes}
    (read : readDescriptor before file maxSize world = .ok data) :
    file = before ∧ ((world 2).disk.inode file).regular = true ∧
      ReadOf file world maxSize data := by
  unfold readDescriptor at read
  split at read
  · cases read
  · dsimp only at read
    split_ifs at read with other large
    · rw [not_or, Bool.not_eq_false, not_not] at other
      split at read
      · cases read
      · rename_i collected looped
        split_ifs at read with beyond
        cases read
        have done := readLoop_ok (Nat.le_refl 3) (by intro index byte found; simp at found) looped
        exact ⟨other.2, other.1, done.2 (not_lt.mp beyond)⟩

/-- One regular file, under the name when it was looked at and when it was opened. -/
structure Pinned (world : Nat → Moment) (candidate : PyStr) (maxSize : Nat) (file : FileId)
    (data : Bytes) : Prop where
  looked : (world 0).disk.lstat candidate = some file
  regular : ((world 0).disk.inode file).regular = true
  opened : (world 1).disk.opened candidate = some file
  remained : ((world 2).disk.inode file).regular = true
  read : ReadOf file world maxSize data

private theorem readCandidate_ok {candidate : PyStr} {data : Bytes}
    (read : readCandidate candidate maxSize world = .ok data) :
    ∃ file, Pinned world candidate maxSize file data := by
  unfold readCandidate at read
  split at read
  · rename_i before _ looked
    split_ifs at read with regular
    split at read
    · rename_i file _ opened
      obtain ⟨rfl, remained, collected⟩ := readDescriptor_ok read
      exact ⟨file, looked, regular, opened, remained, collected⟩
    · cases read
  · cases read

/-- No call fails, and the name leads to one regular file whose content stays. -/
structure Quiet (world : Nat → Moment) (candidate : PyStr) (file : FileId) (content : Bytes) :
    Prop where
  succeeds : ∀ moment, (world moment).fails = none
  looked : (world 0).disk.lstat candidate = some file
  opened : (world 1).disk.opened candidate = some file
  stays : ∀ moment, (world moment).disk.inode file = ⟨true, content⟩

variable {candidate : PyStr} {content : Bytes}

theorem Quiet.readLoop (quiet : Quiet world candidate file content)
    (small : content.length ≤ maxSize) {moment : Nat} {data : Bytes} (front : data <+: content) :
    Media.readLoop file maxSize world moment data = .ok content := by
  fun_induction Media.readLoop file maxSize world moment data with
  | case1 moment data within message failed =>
    rw [quiet.succeeds] at failed
    cases failed
  | case2 moment data within calm chunk ended =>
    have whole := length_le_of_read_nil (by omega) ended
    rw [quiet.stays] at whole
    rw [front.eq_of_length_le whole]
  | case3 moment data within calm chunk more ih =>
    apply ih
    have parts := List.prefix_iff_eq_append.mp front
    have next : chunk <+: content.drop data.length := by
      simp only [chunk, Moment.read, quiet.stays]
      exact List.take_prefix _ _
    rw [← parts]
    exact (List.prefix_append_right_inj data).mpr next
  | case4 moment data beyond => exact absurd (front.length_le.trans small) beyond

theorem Quiet.readCandidate (quiet : Quiet world candidate file content) :
    readCandidate candidate maxSize world =
      if maxSize < content.length then .error (mediaTooLarge maxSize) else .ok content := by
  have regular (moment : Nat) : ((world moment).disk.inode file).regular = true := by
    rw [quiet.stays]
  have held (moment : Nat) : ((world moment).disk.inode file).content = content := by
    rw [quiet.stays]
  simp only [Media.readCandidate, quiet.succeeds, quiet.looked, quiet.opened, regular, if_true,
    readDescriptor, held, Bool.true_eq_false, ne_eq, not_true_eq_false, or_self, if_false]
  by_cases large : maxSize < content.length
  · rw [if_pos large, if_pos large]
  · rw [if_neg large, if_neg large, quiet.readLoop (not_lt.mp large) List.nil_prefix]
    exact if_neg large

/-- The host authorizes the source, and this is the path that is opened for it. -/
structure Authorizes (host : Host) (source candidate : PyStr) : Prop where
  named : source ≠ []
  through : ∃ validate path authorized reread, host.validateMediaDeliveryPath = some validate ∧
    localSource host source = .ok (some path) ∧ validate path = some authorized ∧
      authorized ≠ [] ∧ localSource host authorized = .ok (some reread) ∧ reread ≠ [] ∧
        host.expanduser reread = .ok candidate

variable {host} {source : PyStr}

theorem authorizeLocalMediaPath_eq_some {authorized : PyStr} :
    authorizeLocalMediaPath host source = .ok (some authorized) ↔ source ≠ [] ∧
      ∃ validate path, host.validateMediaDeliveryPath = some validate ∧
        localSource host source = .ok (some path) ∧ validate path = some authorized ∧
          authorized ≠ [] := by
  unfold authorizeLocalMediaPath
  by_cases named : source = []
  · simp [named]
  · rw [if_neg named]
    rcases localSource host source with fault | _ | path
    · simp
    · simp
    · cases host.validateMediaDeliveryPath with
      | none => simp
      | some validate => simp [named, Option.filter_eq_some_iff]

theorem readAuthorizedLocalMedia_ok {data : Bytes} {name : PyStr}
    (read : readAuthorizedLocalMedia host world source maxSize = .ok (data, name)) :
    ∃ candidate file, Authorizes host source candidate ∧ name = pathName candidate ∧
      Pinned world candidate maxSize file data := by
  unfold readAuthorizedLocalMedia at read
  split at read
  · cases read
  · cases read
  · rename_i authorized authorization
    obtain ⟨named, validate, path, installed, first, validated, filled⟩ :=
      authorizeLocalMediaPath_eq_some.mp authorization
    unfold readLocalMedia at read
    split at read
    · cases read
    · cases read
    · rename_i reread second
      split_ifs at read with blank
      split at read
      · cases read
      · rename_i candidate expanded
        obtain ⟨collected, opened, same⟩ := ok_of_map read
        cases same
        obtain ⟨file, pinned⟩ := readCandidate_ok opened
        have through : Authorizes host source candidate :=
          ⟨named, validate, path, authorized, reread, installed, first, validated, filled, second,
            fun none => blank (.inl none), expanded⟩
        exact ⟨candidate, file, through, rfl, pinned⟩

private theorem readAuthorizedLocalMedia_of_authorizes (through : Authorizes host source candidate)
    (positive : 0 < maxSize) :
    readAuthorizedLocalMedia host world source maxSize =
      (readCandidate candidate maxSize world).map fun data => (data, pathName candidate) := by
  obtain ⟨named, validate, path, authorized, reread, installed, first, validated, filled, second,
    given, expanded⟩ := through
  have authorization := authorizeLocalMediaPath_eq_some.mpr
    ⟨named, validate, path, installed, first, validated, filled⟩
  have room : ¬ (reread = [] ∨ maxSize = 0) := by
    rintro (blank | none)
    · exact given blank
    · omega
  simp only [readAuthorizedLocalMedia, authorization, readLocalMedia, second, if_neg room,
    expanded]

/-- What becomes of a local source, whatever other processes do between the system calls: only
bytes of one regular file that the host authorized, and all of them when nobody interferes. -/
structure ReadsAuthorized (host : Host) (world : Nat → Moment) (source : PyStr)
    (maxSize : Nat) : Prop where
  pinned : ∀ data name, readAuthorizedLocalMedia host world source maxSize = .ok (data, name) →
    ∃ candidate file, Authorizes host source candidate ∧ name = pathName candidate ∧
      Pinned world candidate maxSize file data
  quiet : 0 < maxSize → ∀ candidate file content, Authorizes host source candidate →
    Quiet world candidate file content →
      readAuthorizedLocalMedia host world source maxSize =
        if maxSize < content.length then .error (mediaTooLarge maxSize)
        else .ok (content, pathName candidate)

theorem localMedia_pinned (host : Host) (world : Nat → Moment) (source : PyStr)
    (maxSize : Nat) : ReadsAuthorized host world source maxSize where
  pinned _ _ := readAuthorizedLocalMedia_ok
  quiet positive candidate file content through quiet := by
    rw [readAuthorizedLocalMedia_of_authorizes through positive, quiet.readCandidate]
    split <;> rfl

end OctoChannel.Media

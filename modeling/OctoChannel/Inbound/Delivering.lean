import OctoChannel.Inbound.Attachments
import OctoChannel.Transport.Reaching

namespace OctoChannel.Inbound.Attachments

open Foundation Transport Chats

variable {Ip : Type} (loader : Downloader Ip)

private theorem weigh_fittingPrefix (budget : Nat) (text : PyStr) :
    weigh pointBytes (Resolver.fittingPrefix budget text) ≤ budget := by
  induction text generalizing budget with
  | nil => exact Nat.zero_le budget
  | cons point rest ih =>
    rw [Resolver.fittingPrefix]
    split_ifs with fits
    · have later := ih (budget - pointBytes point)
      rw [weigh_cons]
      omega
    · exact Nat.zero_le budget

private theorem weigh_shortSuffix (value : PyStr) (maxBytes : Nat) :
    weigh pointBytes (Resolver.shortSuffix value maxBytes) ≤ min 32 (maxBytes / 2) := by
  unfold Resolver.shortSuffix
  split
  · exact Nat.zero_le _
  · dsimp only
    split_ifs with long
    · exact Nat.zero_le _
    · rw [not_or, Nat.not_lt] at long
      exact long.2

/-- A name is cut to its budget, and holds no characters but its own and those of `file`. -/
private theorem truncateUtf8Filename_spec {value name : PyStr} {maxBytes : Nat}
    (roomy : 8 ≤ maxBytes)
    (cut : Resolver.truncateUtf8Filename value maxBytes = .ok name) :
    weigh pointBytes name ≤ maxBytes ∧ ∀ point ∈ name, point ∈ value ∨ point ∈ py "file" := by
  unfold Resolver.truncateUtf8Filename at cut
  split at cut
  · cases cut
  · rename_i encoded known
    split_ifs at cut with short
    · cases cut
      rw [← length_utf8Encode known]
      exact ⟨short, fun point member => .inl member⟩
    · have suffix := weigh_shortSuffix value maxBytes
      have among : ∀ point ∈ Resolver.shortSuffix value maxBytes, point ∈ value := by
        intro point member
        unfold Resolver.shortSuffix at member
        split at member
        · cases member
        · dsimp only at member
          split_ifs at member
          · cases member
          · exact List.mem_of_mem_drop member
      have front : ∀ budget text, ∀ point ∈ Resolver.fittingPrefix budget text, point ∈ text := by
        intro budget text
        induction text generalizing budget with
        | nil => exact fun point member => member
        | cons first rest ih =>
          intro point member
          rw [Resolver.fittingPrefix] at member
          split_ifs at member
          · rcases List.mem_cons.mp member with same | later
            · exact List.mem_cons.mpr (.inl same)
            · exact List.mem_cons_of_mem _ (ih _ point later)
          · cases member
      have four : weigh pointBytes (py "file") = 4 := by decide
      cases cut
      refine ⟨?_, ?_⟩
      · rw [weigh_append]
        split_ifs with empty
        · omega
        · have prefixed := weigh_fittingPrefix
            (maxBytes - weigh pointBytes (Resolver.shortSuffix value maxBytes))
            (value.take (value.length - (Resolver.shortSuffix value maxBytes).length))
          omega
      · intro point member
        rcases List.mem_append.mp member with inside | inside
        · split_ifs at inside
          · exact .inr inside
          · exact .inl (List.mem_of_mem_take (front _ _ point inside))
        · exact .inl (among point inside)

/-- A character that may stand in the name of a temporary file. -/
def Plain (point : CodePoint) : Prop := point ≠ ch '/' ∧ point.val ≠ 0

instance (point : CodePoint) : Decidable (Plain point) :=
  inferInstanceAs (Decidable (point ≠ ch '/' ∧ point.val ≠ 0))

private theorem plain_safeChar (point : CodePoint) : Plain (safeChar loader point) := by
  unfold safeChar
  split_ifs with kept
  · rw [Bool.or_eq_true] at kept
    refine ⟨?_, ?_⟩
    · rintro rfl
      rw [loader.isAlnum_ascii _ (by decide)] at kept
      exact absurd kept (by decide)
    · intro zero
      have same : point = 0 := Fin.ext zero
      rw [same, loader.isAlnum_ascii _ (by decide)] at kept
      exact absurd kept (by decide)
  · exact ⟨by decide, by decide⟩

/-- The name of a file is bounded, and no part of it leads out of its directory. -/
private theorem safeName_spec {filename name : PyStr}
    (named : safeName loader filename = .ok name) :
    weigh pointBytes name ≤ 255 - 33 ∧ ∀ point ∈ name, Plain point := by
  obtain ⟨short, among⟩ := truncateUtf8Filename_spec (by decide) named
  have file : ∀ point ∈ py "file", Plain point := by
    have each : (py "file").all (fun point => decide (Plain point)) = true := by decide
    intro point member
    exact of_decide_eq_true (List.all_eq_true.mp each point member)
  refine ⟨short, ?_⟩
  intro point member
  rcases among point member with inside | inside
  · split_ifs at inside
    · exact file point inside
    · obtain ⟨origin, _, rfl⟩ := List.mem_map.mp inside
      exact plain_safeChar loader origin
  · exact file point inside

/-- The path that an attempt uses for a file, with a name that its directory holds. -/
def TempPath (attempt : Try) (path : PyStr) : Prop :=
  ∃ name, path = inDirectory fileTempDir (attempt.uuid ++ ch '-' :: name) ∧
    weigh pointBytes name ≤ 255 - 33 ∧ ∀ point ∈ name, Plain point

/-- The server gave this body, to its end. -/
structure Gave (attempt : Try) (body : Bytes) : Prop where
  answered : ∃ response, attempt.response = .ok response ∧ success response.status = true ∧
    response.ended = .ok () ∧ response.chunks.flatten = body

/-- What an attempt does with the files, and what a success of it stands for. -/
structure AttemptSound (loader : Downloader Ip) (files : Files) (attempt : Try)
    (attempted : Attempted) : Prop where
  stored : ∀ size path, attempted.ended = .ok (.stored size path) → TempPath attempt path ∧
    ∃ body, Gave attempt body ∧ attempted.files.get? path = some body ∧ body.length = size ∧
      size ≤ fileDownloadMaxBytes
  inlined : ∀ text, attempted.ended = .ok (.inlined text) → ∃ body, Gave attempt body ∧
    body.length ≤ fileInlineMaxBytes ∧ text = (utf8Decode body).getD (loader.decodeReplace body)
  kept : ∀ path, ¬ TempPath attempt path → attempted.files.get? path = files.get? path
  bounded : ∀ path bytes, attempted.files.get? path = some bytes →
    files.get? path = some bytes ∨ bytes.length ≤ fileDownloadMaxBytes

variable {loader} {files : Files} {attempt : Try}

/-- An attempt that neither shows nor keeps anything. -/
theorem AttemptSound.idle {ended : Except TransportError Resolved}
    (stored : ∀ size path, ended ≠ .ok (.stored size path))
    (inlined : ∀ text, ended ≠ .ok (.inlined text)) :
    AttemptSound loader files attempt ⟨files, ended⟩ where
  stored := fun size path same => absurd same (stored size path)
  inlined := fun text same => absurd same (inlined text)
  kept := fun _ _ => rfl
  bounded := fun _ _ found => .inl found

theorem get?_unlink (files : Files) (path other : PyStr) (goes : Bool) (different : path ≠ other) :
    (unlink files path goes).get? other = files.get? other := by
  unfold unlink
  split_ifs
  · rw [Dict.get?_erase, if_neg different]
  · rfl

theorem unlink_sub (files : Files) (path : PyStr) (goes : Bool) :
    (unlink files path goes).Sub files := by
  unfold unlink
  split_ifs
  · exact Dict.erase_sub files path
  · exact .refl files

/-- What a path has after it was written, and perhaps removed. -/
theorem written_or_same {left bytes : Bytes} {path other : PyStr} {goes : Bool}
    (found : (unlink (files.set path left) path goes).get? other = some bytes) :
    files.get? other = some bytes ∨ bytes = left := by
  have before := unlink_sub (files.set path left) path goes other bytes found
  rw [Dict.get?_set] at before
  split_ifs at before
  · exact .inr (Option.some.inj before).symm
  · exact .inl before

/-- An attempt that fails with something in its file, which it may remove again. -/
theorem AttemptSound.leaves {path : PyStr} (own : TempPath attempt path) {left : Bytes}
    (short : left.length ≤ fileDownloadMaxBytes) (goes : Bool)
    {ended : Except TransportError Resolved} (stored : ∀ size path, ended ≠ .ok (.stored size path))
    (inlined : ∀ text, ended ≠ .ok (.inlined text)) :
    AttemptSound loader files attempt ⟨unlink (files.set path left) path goes, ended⟩ where
  stored := fun size path same => absurd same (stored size path)
  inlined := fun text same => absurd same (inlined text)
  kept := by
    intro other foreign
    have different : path ≠ other := fun same => foreign (same ▸ own)
    rw [get?_unlink _ _ _ _ different, Dict.get?_set_of_ne _ _ different]
  bounded := by
    intro other bytes found
    rcases written_or_same found with same | same
    · exact .inl same
    · exact .inr (same ▸ short)

/-- An attempt that keeps the whole body. -/
theorem AttemptSound.keeps {path : PyStr} (own : TempPath attempt path) {body : Bytes}
    (gave : Gave attempt body) (short : body.length ≤ fileDownloadMaxBytes) :
    AttemptSound loader files attempt
      ⟨files.set path body, .ok (.stored body.length path)⟩ where
  stored := by
    rintro size stored same
    cases same
    exact ⟨own, body, gave, (Dict.get?_set _ _ _ _).trans (if_pos rfl), rfl, short⟩
  inlined := by
    intro text same
    cases same
  kept := fun other foreign => Dict.get?_set_of_ne _ _ fun same => foreign (same ▸ own)
  bounded := by
    intro other bytes found
    rcases @written_or_same files _ bytes path other false found with same | same
    · exact .inl same
    · exact .inr (same ▸ short)

theorem sound_storeFile {filename : PyStr} {response : Response} {before : Bytes}
    {chunks : List Bytes} (answered : attempt.response = .ok response)
    (succeeded : success response.status = true) (within : before.length ≤ fileDownloadMaxBytes)
    (whole : before ++ chunks.flatten = response.chunks.flatten) :
    AttemptSound loader files attempt
      (storeFile loader files filename attempt response before chunks) := by
  unfold storeFile
  split
  · exact .idle (by simp) (by simp)
  · rename_i name named
    obtain ⟨short, plain⟩ := safeName_spec loader named
    have own : TempPath attempt (inDirectory fileTempDir (attempt.uuid ++ ch '-' :: name)) :=
      ⟨name, rfl, short, plain⟩
    generalize inDirectory fileTempDir (attempt.uuid ++ ch '-' :: name) = path at own
    dsimp only
    by_cases opens : attempt.opens = true
    · rw [if_neg (not_not_intro opens)]
      by_cases full : (attempt.room.any (· < before.length)) = true
      · rw [if_pos full]
        exact .leaves own ((List.length_take_le' _ _).trans within) false (by simp) (by simp)
      · rw [if_neg full]
        have left := @streamChunks_left fileDownloadMaxBytes attempt.room response.ended before
          (iterChunked (64 * 1024) chunks) within
        cases streamed : streamChunks fileDownloadMaxBytes attempt.room response.ended before
          (iterChunked (64 * 1024) chunks) with
        | whole data =>
          obtain ⟨same, finished, bounded⟩ := streamChunks_whole streamed within
          rw [flatten_iterChunked, whole] at same
          exact .keeps own ⟨response, answered, succeeded, finished, same.symm⟩ bounded
        | tooLarge total rest =>
          rw [streamed] at left
          exact .leaves own left attempt.unlinks (by simp) (by simp)
        | failed error rest =>
          rw [streamed] at left
          exact .leaves own left false (by simp) (by simp)
    · rw [if_pos opens]
      exact .idle (by simp) (by simp)

/-- The first loop reads all there is, or a prefix that a chunk has taken above the bound. -/
theorem takeInline_spec {before data : Bytes} {chunks : List Bytes} {rest : Option (List Bytes)}
    (read : takeInline before chunks = (data, rest)) (within : before.length ≤ fileInlineMaxBytes)
    (small : ∀ chunk ∈ chunks, chunk.length ≤ 8192) :
    data ++ (rest.getD []).flatten = before ++ chunks.flatten ∧
      data.length ≤ fileInlineMaxBytes + 8192 ∧
      (rest = none → data.length ≤ fileInlineMaxBytes) := by
  induction chunks generalizing before with
  | nil =>
    cases read
    exact ⟨rfl, Nat.le_add_right_of_le within, fun _ => within⟩
  | cons chunk others ih =>
    rw [List.forall_mem_cons] at small
    rw [takeInline] at read
    split_ifs at read with beyond
    · cases read
      refine ⟨?_, ?_, ?_⟩
      · rw [Option.getD_some, List.flatten_cons, List.append_assoc]
      · rw [List.length_append]
        exact Nat.add_le_add within small.1
      · intro nothing
        cases nothing
    · obtain ⟨same, bounded, fits⟩ := ih read (Nat.le_of_not_lt beyond) small.2
      refine ⟨?_, bounded, fits⟩
      rw [same, List.flatten_cons, List.append_assoc]

private theorem sound_fileAttempt (filename : PyStr) (knownSize : Option Int) :
    AttemptSound loader files attempt
      (fileAttempt loader files filename knownSize attempt) := by
  unfold fileAttempt
  split
  · exact .idle (by simp) (by simp)
  · rename_i response answered
    by_cases refused : 300 ≤ response.status ∧ response.status < 500
    · rw [if_pos refused]
      exact .idle (by simp) (by simp)
    · rw [if_neg refused]
      by_cases succeeded : success response.status = true
      · rw [if_neg (not_not_intro succeeded)]
        by_cases inline : inlineEligible loader filename knownSize = true
        · rw [if_pos inline]
          have pieces := @length_of_mem_iterChunked 8192 (by decide) response.chunks
          split
          · rename_i data read
            obtain ⟨same, -, short⟩ := takeInline_spec read (Nat.zero_le _) pieces
            rw [flatten_iterChunked, List.nil_append, Option.getD_none, List.flatten_nil,
              List.append_nil] at same
            split
            · exact .idle (by simp) (by simp)
            · rename_i finished
              refine ⟨by simp, ?_, fun _ _ => rfl, fun _ _ found => .inl found⟩
              intro text shown
              cases shown
              exact ⟨data, ⟨response, answered, succeeded, finished, same.symm⟩, short rfl, rfl⟩
          · rename_i data rest read
            obtain ⟨same, bounded, -⟩ := takeInline_spec read (Nat.zero_le _) pieces
            rw [flatten_iterChunked, List.nil_append] at same
            exact sound_storeFile answered succeeded (bounded.trans (by decide)) same
        · rw [if_neg inline]
          exact sound_storeFile answered succeeded (Nat.zero_le _) rfl
      · rw [if_pos succeeded]
        exact .idle (by simp) (by simp)

/-- What a file came to, over the attempts of a world. -/
structure Faithful (loader : Downloader Ip) (files : Files) (world : Nat → Try)
    (resolved : Resolved) (after : Files) : Prop where
  /-- A path is handed on when the whole body of one answer lies there. -/
  stored : ∀ size path, resolved = .stored size path → ∃ number < maxRetries,
    TempPath (world number) path ∧ ∃ body, Gave (world number) body ∧
      after.get? path = some body ∧ body.length = size ∧ size ≤ fileDownloadMaxBytes
  /-- A text is shown when it is the whole body of one answer. -/
  inlined : ∀ text, resolved = .inlined text → ∃ number < maxRetries, ∃ body,
    Gave (world number) body ∧ body.length ≤ fileInlineMaxBytes ∧
      text = (utf8Decode body).getD (loader.decodeReplace body)
  kept : ∀ path, (∀ number < maxRetries, ¬ TempPath (world number) path) →
    after.get? path = files.get? path
  bounded : ∀ path bytes, after.get? path = some bytes →
    files.get? path = some bytes ∨ bytes.length ≤ fileDownloadMaxBytes

theorem faithful_idle {world : Nat → Try} {resolved : Resolved}
    (stored : ∀ size path, resolved ≠ .stored size path)
    (inlined : ∀ text, resolved ≠ .inlined text) :
    Faithful loader files world resolved files where
  stored := fun size path same => absurd same (stored size path)
  inlined := fun text same => absurd same (inlined text)
  kept := fun _ _ => rfl
  bounded := fun _ _ found => .inl found

/-- The loop over the attempts, from any of them on. -/
private theorem faithful_fileRounds (filename url : PyStr) (knownSize : Option Int)
    (world : Nat → Try)
    {left number : Nat} (range : number + left = maxRetries) (lastError : Option PyStr)
    (files : Files) :
    let rounds := fileRounds loader filename url knownSize world left number lastError files
    Faithful loader files world rounds.resolved rounds.files ∧ rounds.requests.length ≤ left ∧
      ∀ request ∈ rounds.requests, ∃ number, request = requestFor loader url (world number) := by
  induction left generalizing number lastError files with
  | zero =>
    rw [fileRounds]
    exact ⟨faithful_idle (by simp) (by simp), Nat.le_refl 0, by simp⟩
  | succ left ih =>
    have inside : number < maxRetries := by omega
    have sound := @sound_fileAttempt _ loader files (world number) filename knownSize
    rw [fileRounds]
    generalize fileAttempt loader files filename knownSize (world number) = attempted at sound
    obtain ⟨after, ended⟩ := attempted
    cases ended with
    | ok resolved =>
      refine ⟨{ stored := ?_, inlined := ?_, kept := ?_, bounded := sound.bounded }, ?_, ?_⟩
      · rintro size path rfl
        exact ⟨number, inside, sound.stored size path rfl⟩
      · rintro text rfl
        exact ⟨number, inside, sound.inlined text rfl⟩
      · intro path foreign
        exact sound.kept path (foreign number inside)
      · exact Nat.succ_le_succ (Nat.zero_le left)
      · intro request member
        exact ⟨number, List.mem_singleton.mp member⟩
    | error error =>
      obtain ⟨later, count, asked⟩ := @ih (number + 1) (by omega) (some (failureText error)) after
      refine ⟨{ stored := later.stored, inlined := later.inlined, kept := ?_, bounded := ?_ },
        ?_, ?_⟩
      · intro path foreign
        exact (later.kept path foreign).trans (sound.kept path (foreign number inside))
      · intro path bytes found
        rcases later.bounded path bytes found with before | short
        · exact sound.bounded path bytes before
        · exact .inr short
      · exact Nat.succ_le_succ count
      · intro request member
        rcases List.mem_cons.mp member with first | further
        · exact ⟨number, first⟩
        · exact asked request further

/-- Where a request for an attachment goes, and what it may carry. -/
structure Asked (loader : Downloader Ip) (url : PyStr) (request : MediaRequest) : Prop where
  address : request.url = url
  dialled : ∃ answers : List Net.DnsAnswer,
    request.addresses = answers.flatMap (loader.net.dial loader.guard url)
  allowed : inboundMediaUrlAllowed loader url = true
  /-- The token goes to the origin of the configured API or CDN. -/
  token : ∀ value, request.authorization = some value →
    value = py "Bearer " ++ loader.botToken ∧ (origin loader url).isSome ∧
      ∃ configured ∈ [loader.apiUrl, loader.cdnUrl], origin loader configured = origin loader url

theorem asked_requestFor {url : PyStr} (allowed : inboundMediaUrlAllowed loader url = true)
    (attempt : Try) : Asked loader url (requestFor loader url attempt) where
  address := rfl
  dialled := ⟨attempt.answers, rfl⟩
  allowed := allowed
  token := by
    intro value sent
    change inboundMediaHeaders loader url = some value at sent
    unfold inboundMediaHeaders at sent
    split at sent
    · cases sent
    · split at sent
      · cases sent
      · rename_i candidate known
        split at sent
        · rename_i configured
          cases sent
          rw [known]
          obtain ⟨address, member, same⟩ := List.any_eq_true.mp configured
          exact ⟨rfl, rfl, address, member, of_decide_eq_true same⟩
        · cases sent

/-- A file of a message is shown whole, kept whole or named with a label, over everything that
the server and the disk may do in three attempts. -/
structure FileDelivered (loader : Downloader Ip) (files : Files) (old : PyStr → Bool) (url : PyStr)
    (world : Nat → Try) (result : FileResult) : Prop where
  path : ∀ path, result.resolution.localPath = some path ↔
    ∃ size, result.resolved = .stored size path
  asked : ∀ request ∈ result.requests, Asked loader url request
  attempts : result.requests.length ≤ maxRetries
  faithful : Faithful loader files world result.resolved result.files ∨
    Faithful loader (cleanupTempDir files old) world result.resolved result.files

theorem localPath_resolution (filename : PyStr) (knownSize : Option Int) (resolved : Resolved)
    (path : PyStr) : (resolution loader filename knownSize resolved).localPath = some path ↔
      ∃ size, resolved = .stored size path := by
  cases resolved with
  | stored size other => simp [resolution]
  | inlined text => simp [resolution]
  | announcedTooLarge size => simp [resolution]
  | foundTooLarge total => simp [resolution]
  | refused status => cases status <;> simp [resolution]
  | gaveUp lastError => simp [resolution]

theorem FileDelivered.of_resolved {loader : Downloader Ip} {makes : Bool} {files : Files}
    {old : PyStr → Bool} {url : PyStr} {name : Json} {knownSize : Option Int} {world : Nat → Try}
    {result : FileResult}
    (resolved : resolveInboundFile loader makes files old url name knownSize world = .ok result) :
    FileDelivered loader files old url world result := by
  unfold resolveInboundFile at resolved
  split at resolved
  · cases resolved
  · rename_i filename shown
    by_cases blocked : ¬ loader.httpSession = true ∨ url = [] ∨
        ¬ inboundMediaUrlAllowed loader url = true
    · rw [if_pos blocked] at resolved
      cases resolved
      exact { path := localPath_resolution _ _ _, asked := by simp, attempts := Nat.zero_le _,
              faithful := .inl (faithful_idle (by simp) (by simp)) }
    · rw [if_neg blocked] at resolved
      rw [not_or, not_or, not_not, not_not] at blocked
      cases announced : knownSize.filter ((fileDownloadMaxBytes : Int) < ·) with
      | some size =>
        rw [announced] at resolved
        cases resolved
        exact { path := localPath_resolution _ _ _, asked := by simp, attempts := Nat.zero_le _,
                faithful := .inl (faithful_idle (by simp) (by simp)) }
      | none =>
        rw [announced] at resolved
        dsimp only at resolved
        split at resolved
        · cases resolved
        cases resolved
        obtain ⟨faithful, count, each⟩ := @faithful_fileRounds _ loader filename url knownSize world
          maxRetries 0 rfl none (cleanupTempDir files old)
        refine { path := localPath_resolution _ _ _, asked := ?_, attempts := count,
                 faithful := .inr faithful }
        intro request member
        obtain ⟨number, rfl⟩ := each request member
        exact asked_requestFor blocked.2.2 (world number)

/-- Media reach the agent as a file with the whole body, or not at all. -/
structure MediaDelivered (loader : Downloader Ip) (files : Files) (old : PyStr → Bool) (url : PyStr)
    (mime : Option PyStr) (attempt : Try) (result : MediaResult) : Prop where
  asked : ∀ request ∈ result.requests, Asked loader url request
  attempts : result.requests.length ≤ 1
  whole : ∀ path, result.path = some path → path = mediaPath loader url mime attempt.uuid ∧
    ∃ body, Gave attempt body ∧ result.files.get? path = some body ∧
      body.length ≤ mediaDownloadMaxBytes
  /-- What cannot be handed on is removed again. -/
  nothing : result.path = none → attempt.unlinks = true → result.files.Sub files
  kept : ∀ path, path ≠ mediaPath loader url mime attempt.uuid →
    result.files.get? path = files.get? path ∨
      old path = true ∧ result.files.get? path = none

variable {old : PyStr → Bool} {url : PyStr} {mime : Option PyStr}

theorem get?_cleanup (files : Files) (old : PyStr → Bool) (path : PyStr) :
    (cleanupTempDir files old).get? path = files.get? path ∨
      old path = true ∧ (cleanupTempDir files old).get? path = none := by
  rw [cleanupTempDir, Dict.get?_filterKeys]
  by_cases gone : old path = true
  · exact .inr ⟨gone, by rw [gone]; rfl⟩
  · rw [Bool.not_eq_true] at gone
    exact .inl (by rw [gone]; rfl)

theorem cleanup_sub (files : Files) (old : PyStr → Bool) : (cleanupTempDir files old).Sub files :=
  Dict.filterKeys_sub files _

private theorem sub_of_set {files : Files} {path : PyStr} {left : Bytes} :
    ((files.set path left).erase path).Sub files := by
  intro other bytes found
  rw [Dict.get?_erase] at found
  split_ifs at found with same
  rwa [Dict.get?_set_of_ne _ _ same] at found

/-- A request that is answered with nothing to keep. -/
theorem MediaDelivered.without {requests : List MediaRequest} {after : Files}
    (asked : ∀ request ∈ requests, Asked loader url request) (attempts : requests.length ≤ 1)
    (nothing : attempt.unlinks = true → after.Sub files)
    (kept : ∀ path, path ≠ mediaPath loader url mime attempt.uuid →
      after.get? path = files.get? path ∨ old path = true ∧ after.get? path = none) :
    MediaDelivered loader files old url mime attempt ⟨requests, after, none⟩ where
  asked := asked
  attempts := attempts
  whole := by
    intro path same
    cases same
  nothing := fun _ goes => nothing goes
  kept := kept

/-- Something is left at the path of the attempt and removed again, where that goes. -/
theorem MediaDelivered.drops {request : MediaRequest} (asked : Asked loader url request)
    {left : Bytes} : MediaDelivered loader files old url mime attempt
      ⟨[request],
        unlink ((cleanupTempDir files old).set (mediaPath loader url mime attempt.uuid) left)
        (mediaPath loader url mime attempt.uuid) attempt.unlinks, none⟩ := by
  refine .without (by simpa using asked) (Nat.le_refl 1) ?_ ?_
  · intro goes
    rw [unlink, if_pos goes]
    exact sub_of_set.trans (cleanup_sub files old)
  · intro path foreign
    rw [get?_unlink _ _ _ _ foreign.symm, Dict.get?_set_of_ne _ _ foreign.symm]
    exact get?_cleanup files old path

theorem MediaDelivered.closes {request : MediaRequest} (asked : Asked loader url request) :
    MediaDelivered loader files old url mime attempt
      ⟨[request], unlink (cleanupTempDir files old) (mediaPath loader url mime attempt.uuid)
        attempt.unlinks, none⟩ := by
  refine .without (by simpa using asked) (Nat.le_refl 1) ?_ ?_
  · intro _
    exact (unlink_sub _ _ _).trans (cleanup_sub files old)
  · intro path foreign
    rw [get?_unlink _ _ _ _ foreign.symm]
    exact get?_cleanup files old path

theorem MediaDelivered.untouched : MediaDelivered loader files old url mime attempt
    ⟨[], files, none⟩ :=
  .without (by simp) (Nat.zero_le 1) (fun _ => .refl files) fun _ _ => .inl rfl

theorem MediaDelivered.of_download {makes : Bool} {result : MediaResult}
    (downloaded : downloadInboundMediaToLocal loader makes files old url mime attempt =
      .ok result) : MediaDelivered loader files old url mime attempt result := by
  unfold downloadInboundMediaToLocal at downloaded
  by_cases absent : ¬ loader.httpSession = true ∨ url = []
  · rw [if_pos absent] at downloaded
    cases downloaded
    exact .untouched
  · rw [if_neg absent] at downloaded
    by_cases allowed : inboundMediaUrlAllowed loader url = true
    · rw [if_neg (not_not_intro allowed)] at downloaded
      have asked := asked_requestFor allowed attempt
      dsimp only at downloaded
      split at downloaded
      · cases downloaded
      obtain rfl := Except.ok.inj downloaded
      split
      · exact .closes asked
      · rename_i response answered
        by_cases succeeded : success response.status = true
        · rw [if_neg (not_not_intro succeeded)]
          by_cases opens : attempt.opens = true
          · rw [if_neg (not_not_intro opens)]
            split
            · rename_i data streamed
              obtain ⟨same, finished, bounded⟩ := streamChunks_whole streamed (Nat.zero_le _)
              rw [flatten_iterChunked, List.nil_append] at same
              refine { asked := by simpa using asked, attempts := Nat.le_refl 1, whole := ?_,
                       nothing := by simp, kept := ?_ }
              · intro path same'
                cases same'
                exact ⟨rfl, data, ⟨response, answered, succeeded, finished, same.symm⟩,
                  (Dict.get?_set _ _ _ _).trans (if_pos rfl), bounded⟩
              · intro path foreign
                rw [Dict.get?_set_of_ne _ _ foreign.symm]
                exact get?_cleanup files old path
            · exact .drops asked
            · exact .drops asked
          · rw [if_pos opens]
            exact .closes asked
        · rw [if_pos succeeded]
          refine .without (by simpa using asked) (Nat.le_refl 1)
            (fun _ => cleanup_sub files old) fun path _ => get?_cleanup files old path
    · rw [if_pos allowed] at downloaded
      cases downloaded
      exact .untouched

theorem inbound_media_whole (loader : Downloader Ip) (makes : Bool) (files : Files)
    (old : PyStr → Bool) (url : PyStr) (mime : Option PyStr) (attempt : Try) :
    match downloadInboundMediaToLocal loader makes files old url mime attempt with
    | .error fault => fault = .osError ∧ makes = false ∧ loader.httpSession = true ∧ url ≠ [] ∧
        inboundMediaUrlAllowed loader url = true
    | .ok result => MediaDelivered loader files old url mime attempt result := by
  cases downloaded : downloadInboundMediaToLocal loader makes files old url mime attempt with
  | ok result => exact .of_download downloaded
  | error fault =>
    unfold downloadInboundMediaToLocal at downloaded
    split_ifs at downloaded with absent blocked unmade
    cases downloaded
    rw [not_or, not_not] at absent
    exact ⟨rfl, Bool.eq_false_of_not_eq_true unmade, absent.1, absent.2, blocked⟩

/-- A request for an attachment carries no token to others and reaches nothing internal. -/
structure Guarded (loader : Downloader Ip) (url : PyStr) (request : MediaRequest) : Prop where
  asked : Asked loader url request
  reaches : ∀ address ∈ request.addresses, loader.net.Reachable loader.guard url address

theorem guarded_of_asked (lawful : loader.net.Lawful)
    (named : ∀ endpoint ∈ loader.guard.trustedConnectionEndpoints, endpoint.1 ≠ []) {url : PyStr}
    {request : MediaRequest} (asked : Asked loader url request) : Guarded loader url request := by
  refine ⟨asked, ?_⟩
  intro address member
  obtain ⟨answers, same⟩ := asked.dialled
  rw [same] at member
  obtain ⟨answer, _, inside⟩ := List.mem_flatMap.mp member
  exact Net.reachable_of_dial lawful named inside

/-- Every request for an attachment, of either kind, is guarded: it is one for the allowed URL
itself, the bot token goes along to a configured origin only, and no answer of a name server
leads it to an internal address. -/
theorem attachments_guarded (loader : Downloader Ip) (lawful : loader.net.Lawful)
    (trustedOrigins : List PyStr) (policy : loader.guard = loader.net.newPolicy trustedOrigins)
    (makes : Bool) (files : Files) (old : PyStr → Bool) (url : PyStr) (mime : Option PyStr)
    (name : Json) (knownSize : Option Int) (attempt : Try) (world : Nat → Try) :
    (∀ result, downloadInboundMediaToLocal loader makes files old url mime attempt = .ok result →
        ∀ request ∈ result.requests, Guarded loader url request) ∧
      ∀ result, resolveInboundFile loader makes files old url name knownSize world = .ok result →
        ∀ request ∈ result.requests, Guarded loader url request := by
  have named : ∀ endpoint ∈ loader.guard.trustedConnectionEndpoints, endpoint.1 ≠ [] := by
    rw [policy]
    exact loader.net.newPolicy_named trustedOrigins
  refine ⟨?_, ?_⟩
  · intro result downloaded request member
    exact guarded_of_asked lawful named
      ((MediaDelivered.of_download downloaded).asked request member)
  · intro result resolved request member
    exact guarded_of_asked lawful named
      ((FileDelivered.of_resolved resolved).asked request member)

def sampleLoader : Downloader Unit where
  net := Net.sampleNet
  urlparse := fun text =>
    if text = py "http://a.io" then some ⟨py "http", some (py "a.io"), some none⟩ else none
  guard := Net.sampleNet.newPolicy Net.sampleOrigins
  httpSession := true
  transportPolicy := some (Net.sampleNet.newPolicy Net.sampleOrigins)
  apiUrl := py "http://a.io"
  cdnUrl := []
  botToken := py "bf_1"
  resolver := {
    digits := ⟨Json.isDigit, Json.isDigit, fun _ _ => ⟨rfl, rfl⟩⟩
    isFormat := fun _ => false
    surrogate := fun _ _ => rfl
    str := Json.print
    equal := fun _ _ => false
    apiUrl := py "http://a.io"
    cdnUrl := [] }
  isAlnum := Identity.isAsciiAlnum
  isAlnum_ascii := fun _ _ => rfl
  lower := lower
  formatSize := fun _ => py "2 B"
  decodeReplace := fun _ => []

def sampleTry : Try :=
  ⟨[.ok [⟨some (py "::1")⟩]], .ok ⟨200, none, none, none, none, [[1, 2]], .ok ()⟩, py "0", true,
    none, true⟩

theorem sampleLoader_guarded : ∃ result,
    downloadInboundMediaToLocal sampleLoader true .empty (fun _ => false) (py "http://a.io")
        (some (py "image/png")) sampleTry = .ok result ∧
      (∀ request ∈ result.requests, Guarded sampleLoader (py "http://a.io") request) ∧
      result.requests.map MediaRequest.authorization = [some (py "Bearer bf_1")] ∧
      result.requests.map MediaRequest.addresses = [[py "::1"]] := by
  have guarded :=
    (attachments_guarded sampleLoader Net.sampleNet_lawful Net.sampleOrigins rfl true .empty
      (fun _ => false) (py "http://a.io") (some (py "image/png")) (.str (py "a")) none sampleTry
      (fun _ => sampleTry)).1
  have sent : (downloadInboundMediaToLocal sampleLoader true .empty (fun _ => false)
      (py "http://a.io") (some (py "image/png")) sampleTry).map (fun result =>
        (result.requests.map MediaRequest.authorization,
          result.requests.map MediaRequest.addresses)) =
      .ok ([some (py "Bearer bf_1")], [[py "::1"]]) := by decide +kernel
  cases downloaded : downloadInboundMediaToLocal sampleLoader true .empty (fun _ => false)
      (py "http://a.io") (some (py "image/png")) sampleTry with
  | error fault =>
    rw [downloaded] at sent
    cases sent
  | ok result =>
    rw [downloaded] at sent
    obtain ⟨tokens, addresses⟩ := Prod.mk.inj (Except.ok.inj sent)
    exact ⟨result, rfl, guarded result downloaded, tokens, addresses⟩

end OctoChannel.Inbound.Attachments

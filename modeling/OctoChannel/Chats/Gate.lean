import OctoChannel.Foundation.Runs
import OctoChannel.Chats.Scheduling

namespace OctoChannel.Chats

open Foundation Identity Caches

variable {Names : Type} {caches : Caches Names} {runtime : Runtime Names}

/-- The answer lists the uid with `robot` false or 0. -/
def RosterAnswer.Lists : RosterAnswer → PyStr → Prop
  | .failed, _ => False
  | .members listed, uid =>
    ∃ member ∈ listed, member.uid = uid ∧ robotFlag member.robot = some false

/-- A system with the last answer to a roster request of each group. -/
structure Watch (Names : Type) where
  system : System Names
  answers : Dict PyStr RosterAnswer

namespace Watch

variable (watch : Watch Names) (runtime : Runtime Names)

/-- The answers behind an event. -/
def answersAfter : Event → Dict PyStr RosterAnswer
  | .rosterEnds id answer _ =>
    match watch.system.task? id with
    | some (.roster fetch) => watch.answers.set fetch.parent answer
    | _ => watch.answers
  | _ => watch.answers

def step (watch : Watch Names) (event : Event) : Watch Names :=
  ⟨watch.system.step runtime event, watch.answersAfter event⟩

def machine (names : Names) (mdFiles : Dict PyStr MdEntry) : Machine (Watch Names) Event where
  start := ⟨.start names mdFiles, .empty⟩
  step := step runtime

/-- The frame that comes to the gate in an event, with the caches it finds there. -/
def atGate : Event → Option (Caches Names × Frame)
  | .frameContinues id session now =>
    match watch.system.task? id with
    | some (.frame frame) =>
      if (watch.system.frameFetch? frame session now).isSome then none
      else some (watch.system.caches, frame)
    | _ => none
  | .rosterEnds id answer _ =>
    match watch.system.task? id with
    | some (.roster fetch) =>
      fetch.waiter.map fun frame => (watch.system.caches.rosterEnds runtime fetch answer, frame)
    | _ => none
  | _ => none

/-- Every group frame that passes the gate in an event without a mention comes from
somebody whom the last answer of its group lists as no robot. -/
def Authorised (event : Event) : Prop :=
  ∀ caches frame, watch.atGate runtime event = some (caches, frame) →
    (groupType? frame.channelType).isSome → isMentioned runtime.settings frame = false →
    caches.gate runtime.settings frame = .passed →
    ∃ answer, (watch.answersAfter event).get? (parentGroupNo frame.channelId) = some answer ∧
      answer.Lists frame.fromUid

/-- An answer that comes after the generation of its group has moved on, and is thrown
away for that, finds no flag that it does not confirm. -/
def Confirmed : Event → Prop
  | .rosterEnds id answer _ =>
    ∀ fetch, watch.system.task? id = some (.roster fetch) →
      fetch.generation ≠ watch.system.caches.groupScopeGeneration fetch.parent →
      ∀ flags uid, watch.system.caches.groupRobotMap.get? fetch.parent = some flags →
        flags.get? uid = some (some false) → answer.Lists uid
  | _ => True

end Watch

private theorem flags_sweepChannel (channelId : PyStr) :
    (caches.sweepChannel channelId).groupRobotMap.Sub caches.groupRobotMap := by
  unfold sweepChannel
  dsimp only
  split
  · exact .refl _
  · exact Dict.erase_sub _ channelId

private theorem flags_prefetchEnds (generations : Dict PyStr Nat) (answer : GroupsAnswer)
    (now : Int)
    (refused : PyStr → Bool) :
    (caches.prefetchEnds generations answer now refused).groupRobotMap.Sub
      caches.groupRobotMap := by
  unfold Caches.prefetchEnds
  split
  · exact .refl _
  · rename_i groups
    split
    · exact .refl _
    · rw [(sameScopes_indexGroups _ generations now groups).flags]
      exact Dict.Sub.foldl groupRobotMap (fun _ groupNo => Dict.erase_sub _ groupNo) _ caches

private theorem flags_cleanupCaches (cutoff : Int) :
    (caches.cleanupCaches cutoff).groupRobotMap.Sub caches.groupRobotMap :=
  Dict.Sub.foldl groupRobotMap (fun _ => flags_sweepChannel) _ caches

private theorem flags_handleGroupMdEvent (channelId : PyStr) (deleted : Bool)
    (refused : PyStr → Bool) :
    (caches.handleGroupMdEvent channelId deleted refused).groupRobotMap =
      caches.groupRobotMap := by
  unfold handleGroupMdEvent
  dsimp only
  split <;> rfl

/-- Only the answer to a roster request adds flags. -/
private theorem flags_step (system : System Names) (runtime : Runtime Names) (event : Event)
    (other : ∀ id answer now, event ≠ .rosterEnds id answer now) :
    (system.step runtime event).caches.groupRobotMap.Sub system.caches.groupRobotMap := by
  have move := System.step_caches runtime system event
  generalize (system.step runtime event).caches = ended at move ⊢
  cases move with
  | kept unmarked => exact .refl _
  | recorded frame now => exact .of_eq (sameScopes_recordFrame _ _ frame now).flags
  | passed id session frame now => exact .of_eq (sameScopes_throughGate _ _ frame now).flags
  | answered id fetch answer now => exact absurd rfl (other id answer now)
  | answeredFrame id fetch frame answer now => exact absurd rfl (other id answer now)
  | handled channelId deleted session refused =>
    exact .of_eq (flags_handleGroupMdEvent channelId deleted refused)
  | ensured found answer write refused =>
    exact .of_eq (sameFlags_ensureMdEnds _ _ _ _ answer write).flags
  | refreshed found answer write refused =>
    exact .of_eq (sameFlags_refreshMdEnds _ _ _ _ answer write refused).flags
  | evicted groupNo refused => exact Dict.erase_sub _ groupNo
  | swept cutoff => exact flags_cleanupCaches cutoff
  | groupUpdated groupId entry write =>
    exact .of_eq (sameFlags_toolUpdate _ groupId entry write).flags
  | threadUpdated groupId shortId entry write =>
    exact .of_eq (sameFlags_toolUpdate _ _ entry write).flags
  | prefetched found answer now refused => exact flags_prefetchEnds _ answer now refused

/-- Every flag that clears somebody is confirmed by the last answer of its group. -/
def Verified (caches : Caches Names) (answers : Dict PyStr RosterAnswer) : Prop :=
  ∀ parent flags uid, caches.groupRobotMap.get? parent = some flags →
    flags.get? uid = some (some false) →
    ∃ answer, answers.get? parent = some answer ∧ answer.Lists uid

variable {answers : Dict PyStr RosterAnswer}

theorem Verified.fewer {after : Caches Names} (verified : Verified caches answers)
    (fewer : after.groupRobotMap.Sub caches.groupRobotMap) : Verified after answers :=
  fun parent flags uid found flag => verified parent flags uid (fewer parent flags found) flag

/-- A cleared uid comes from a member that the roster lists as no robot. -/
private theorem lists_of_robotMapOf {members : List GroupMember} {uid : PyStr}
    (flag : (robotMapOf members).get? uid = some (some false)) :
    (RosterAnswer.members members).Lists uid := by
  have general : ∀ (rest : List GroupMember) (flags : Dict PyStr (Option Bool)),
      (rest.foldl (fun flags member =>
        if member.uid = [] then flags else flags.set member.uid (robotFlag member.robot))
        flags).get? uid = some (some false) →
      flags.get? uid = some (some false) ∨
        ∃ member ∈ rest, member.uid = uid ∧ robotFlag member.robot = some false := by
    intro rest
    induction rest with
    | nil => exact fun flags found => .inl found
    | cons member rest ih =>
      intro flags found
      rcases ih _ found with earlier | ⟨later, present, named, human⟩
      · dsimp only at earlier
        split at earlier
        · exact .inl earlier
        · rw [Dict.get?_set] at earlier
          split at earlier
          · rename_i same
            exact .inr ⟨member, .head _, same, Option.some.inj earlier⟩
          · exact .inl earlier
      · exact .inr ⟨later, .tail _ present, named, human⟩
  rcases general members .empty flag with nothing | listed
  · cases nothing
  · exact listed

private theorem robotMap_cacheGroupMembers (robotId groupNo : PyStr) (members : List GroupMember) :
    (caches.cacheGroupMembers runtime.learn robotId groupNo members).groupRobotMap =
      caches.groupRobotMap.set (parentGroupNo groupNo) (robotMapOf members) := by
  unfold cacheGroupMembers updateUserGroupIndex
  dsimp only
  split <;> rfl

theorem Verified.set (verified : Verified caches answers) (parent : PyStr) (answer : RosterAnswer)
    {after : Caches Names}
    (others : ∀ other, other ≠ parent →
      after.groupRobotMap.get? other = caches.groupRobotMap.get? other)
    (own : ∀ flags uid, after.groupRobotMap.get? parent = some flags →
      flags.get? uid = some (some false) → answer.Lists uid) :
    Verified after (answers.set parent answer) := by
  intro other flags uid found flag
  by_cases same : other = parent
  · subst same
    exact ⟨answer, Dict.get?_set_self answers other answer, own flags uid found flag⟩
  · rw [others other same] at found
    obtain ⟨last, answered, listed⟩ := verified other flags uid found flag
    refine ⟨last, ?_, listed⟩
    rwa [Dict.get?_set_of_ne answers answer (Ne.symm same)]

/-- An answer verifies the flags it leaves, unless it is thrown away. -/
theorem Verified.rosterEnds (verified : Verified caches answers) {fetch : RosterFetch}
    {answer : RosterAnswer} (parent : parentGroupNo fetch.parent = fetch.parent)
    (confirmed : fetch.generation ≠ caches.groupScopeGeneration fetch.parent →
      ∀ flags uid, caches.groupRobotMap.get? fetch.parent = some flags →
        flags.get? uid = some (some false) → answer.Lists uid) :
    Verified (caches.rosterEnds runtime fetch answer) (answers.set fetch.parent answer) := by
  unfold Caches.rosterEnds
  split
  · rename_i moved
    exact verified.set fetch.parent answer (fun _ _ => rfl) (confirmed moved)
  · have unverified : ∀ ending : RosterAnswer,
        Verified (caches.unverify fetch.parent fetch.now) (answers.set fetch.parent ending) := by
      intro ending
      refine verified.set fetch.parent ending ?_ ?_
      · intro other different
        exact (Dict.get?_erase _ _ _).trans (if_neg (Ne.symm different))
      · intro flags uid found
        rw [unverify, Dict.get?_erase_self] at found
        cases found
    cases answer with
    | failed => exact unverified .failed
    | members members =>
      dsimp only
      split
      · exact unverified (.members members)
      · have stored := @robotMap_cacheGroupMembers Names caches runtime runtime.settings.robotId
          fetch.parent members
        rw [parent] at stored
        refine verified.set fetch.parent (.members members) ?_ ?_
        · intro other different
          dsimp only
          rw [stored, Dict.get?_set_of_ne _ _ (Ne.symm different)]
        · intro flags uid found flag
          dsimp only at found
          rw [stored, Dict.get?_set_self] at found
          cases found
          exact lists_of_robotMapOf flag

/-- Somebody who gets past the gate of a group without a mention is cleared by a flag. -/
private theorem flag_of_passed {settings : Settings} {frame : Frame}
    (group : (groupType? frame.channelType).isSome) (unmentioned : isMentioned settings frame = false)
    (passed : caches.gate settings frame = .passed) :
    ∃ flags, caches.groupRobotMap.get? (parentGroupNo frame.channelId) = some flags ∧
      flags.get? frame.fromUid = some (some false) := by
  have gated : ¬ ((groupType? frame.channelType).isNone || isMentioned settings frame) := by
    simp [unmentioned, Option.isSome_iff_ne_none.mp group]
  unfold gate at passed
  rw [if_neg gated] at passed
  dsimp only at passed
  split at passed
  · cases passed
  · split at passed
    · rename_i cleared
      cases found : caches.groupRobotMap.get? (parentGroupNo frame.channelId) with
      | none =>
        rw [found] at cleared
        cases cleared
      | some flags =>
        rw [found] at cleared
        exact ⟨flags, rfl, cleared⟩
    · cases passed

theorem Verified.authorises (verified : Verified caches answers) {settings : Settings}
    {frame : Frame} (group : (groupType? frame.channelType).isSome)
    (unmentioned : isMentioned settings frame = false)
    (passed : caches.gate settings frame = .passed) :
    ∃ answer, answers.get? (parentGroupNo frame.channelId) = some answer ∧
      answer.Lists frame.fromUid := by
  obtain ⟨flags, found, cleared⟩ := flag_of_passed group unmentioned passed
  exact verified _ flags frame.fromUid found cleared

namespace Watch

variable {watch : Watch Names}

/-- The flags of a watched system are verified, whatever still waits. -/
structure Kept (watch : Watch Names) : Prop where
  sound : watch.system.Sound
  verified : Verified watch.system.caches watch.answers

theorem Kept.rosterEnds (kept : watch.Kept) (runtime : Runtime Names) {id : Nat} {answer : RosterAnswer} {now : Int}
    (confirmed : watch.Confirmed (.rosterEnds id answer now)) {fetch : RosterFetch}
    (found : watch.system.task? id = some (.roster fetch)) :
    Verified (watch.system.caches.rosterEnds runtime fetch answer)
      (watch.answers.set fetch.parent answer) :=
  kept.verified.rosterEnds (kept.sound.ownGroup id _ (System.mem_of_task? found))
    (confirmed fetch found)

theorem Kept.step (kept : watch.Kept) (event : Event) (confirmed : watch.Confirmed event) :
    (watch.step runtime event).Kept := by
  refine ⟨kept.sound.step event, ?_⟩
  by_cases ending : ∃ id answer now, event = .rosterEnds id answer now
  · obtain ⟨id, answer, now, rfl⟩ := ending
    unfold Watch.step Watch.answersAfter System.step
    dsimp only
    cases found : watch.system.task? id with
    | none => exact kept.verified
    | some task =>
      cases task with
      | roster fetch =>
        have ended := kept.rosterEnds runtime confirmed found
        dsimp only
        split
        · exact ended
        · exact ended.fewer (.of_eq (sameScopes_throughGate _ _ _ now).flags)
      | frame | ensureMd | scheduledMd | refreshMd | prefetch => exact kept.verified
  · have fewer := flags_step watch.system runtime event
      (fun id answer now same => ending ⟨id, answer, now, same⟩)
    have same : watch.answersAfter event = watch.answers := by
      cases event with
      | rosterEnds id answer now => exact absurd ⟨id, answer, now, rfl⟩ ending
      | _ => rfl
    unfold Watch.step
    rw [same]
    exact kept.verified.fewer fewer

private theorem Kept.authorised (kept : watch.Kept) (event : Event)
    (confirmed : watch.Confirmed event) :
    watch.Authorised runtime event := by
  intro caches frame arrives group unmentioned passed
  cases event with
  | frameContinues id session now =>
    unfold atGate at arrives
    dsimp only at arrives
    split at arrives
    · split at arrives
      · cases arrives
      · cases arrives
        exact kept.verified.authorises group unmentioned passed
    · cases arrives
  | rosterEnds id answer now =>
    unfold atGate at arrives
    dsimp only at arrives
    split at arrives
    · rename_i fetch found
      obtain ⟨waiter, _, same⟩ := Option.map_eq_some_iff.mp arrives
      cases same
      have answered : watch.answersAfter (.rosterEnds id answer now) =
          watch.answers.set fetch.parent answer := by
        unfold answersAfter
        simp only [found]
      rw [answered]
      exact (kept.rosterEnds runtime confirmed found).authorises group unmentioned passed
    · cases arrives
  | _ => cases arrives

/-- As long as an answer that is thrown away finds no flag that it does not confirm, no
frame gets past the gate on a stale flag. -/
theorem machine_authorised (runtime : Runtime Names) (names : Names) (mdFiles : Dict PyStr MdEntry)
    (events : List Event)
    (confirmed : (machine runtime names mdFiles).Along Confirmed events) :
    (machine runtime names mdFiles).Along (fun watch => watch.Authorised runtime) events := by
  intro done event later split
  subst split
  have kept : ((machine runtime names mdFiles).run done).Kept := by
    apply Machine.invariant_of_along _ _ confirmed.front
    · exact ⟨.start names mdFiles, nofun⟩
    · exact fun watch event kept confirmed => kept.step event confirmed
  exact kept.authorised event (confirmed done event later rfl)

def relaxedMachine : Machine (Watch Unit) Event := machine soleRuntime () .empty

/-- A group frame that mentions nobody. -/
def plainFrame : Frame := ⟨py "u", py "g", 2, none, false, py "hi"⟩

/-- The roster of the group, with its only member cleared. -/
def clearedRoster : RosterAnswer := .members [⟨py "u", py "U", .bool false⟩]

def verifiedRun : List Event :=
  [.rosterStarts (py "g") true true 5, .rosterEnds 0 clearedRoster 6, .frameArrives plainFrame 7,
    .frameContinues 1 true 8]

theorem machine_authorised_verified :
    relaxedMachine.Along (fun watch => watch.Authorised soleRuntime) verifiedRun := by
  refine machine_authorised soleRuntime () .empty verifiedRun (Machine.along_of_follows ?_)
  refine ⟨trivial, ?_, trivial, trivial, trivial⟩
  intro fetch found moved
  cases found
  exact absurd rfl moved

/-- A request that fails behind an MD event leaves the flags of the one before. -/
def staleRun : List Event :=
  [.rosterStarts (py "g") true true 5, .rosterEnds 0 clearedRoster 6,
    .rosterStarts (py "g") true true 7, .mdEvent (py "g") true true (fun _ => false),
    .rosterEnds 1 .failed 8, .frameArrives plainFrame 9, .frameContinues 2 true 10]

/-- The frame gets past the gate though the last request of its group failed. -/
theorem staleRun_not_authorised :
    ¬ relaxedMachine.Along (fun watch => watch.Authorised soleRuntime) staleRun := by
  intro along
  have last := along (staleRun.take 6) (.frameContinues 2 true 10) [] rfl
  obtain ⟨answer, answered, lists⟩ := last _ plainFrame rfl rfl rfl (by decide)
  cases answered
  exact lists

end Watch

end OctoChannel.Chats

import OctoChannel.Foundation.Readers
import OctoChannel.Tools.Management

namespace OctoChannel.Tools

open Foundation Identity Chats

namespace ApiCall

/-- The group that a request reads from or sends into, itself or one of its threads. -/
def group? : ApiCall → Option PyStr
  | getGroupInfo groupNo => some groupNo
  | getGroupMembers groupNo => some groupNo
  | getGroupMd groupNo => some groupNo
  | listThreads groupNo => some groupNo
  | getThread groupNo _ => some groupNo
  | listThreadMembers groupNo _ => some groupNo
  | getThreadMd groupNo _ => some groupNo
  | getChannelMessages channelId channelType _ => chatGroup? channelId channelType
  | sendMessage channelId channelType _ _ _ _ _ _ => chatGroup? channelId channelType
  | _ => none

/-- The peer of a direct message that is read or sent. -/
def peer? : ApiCall → Option PyStr
  | getChannelMessages channelId .DM _ => some channelId
  | sendMessage channelId .DM _ _ _ _ _ _ => some channelId
  | _ => none

/-- The requests of `OWNER_ONLY_ACTIONS`. -/
def ownerOnly : ApiCall → Bool
  | fetchBotGroups | searchSpaceMembers _ _ | getVoiceContext | createGroup _ _ _
  | updateGroup _ _ _ | addGroupMembers _ _ | removeGroupMembers _ _ | updateGroupMd _ _
  | createThread _ _ | deleteThread _ _ | joinThread _ _ | leaveThread _ _ | updateThreadMd _ _ _
  | updateVoiceContext _ | deleteVoiceContext => true
  | _ => false

def mentioned : ApiCall → List PyStr
  | sendMessage _ _ _ mentionUids _ _ _ _ => mentionUids.getD []
  | _ => []

end ApiCall

/-- What makes a request of a requester permitted, behind what was issued before it. -/
structure Permitted (rosters : Rosters) (ownerUid requesterUid : PyStr) (done : List Issued)
    (call : ApiCall) : Prop where
  group : ∀ groupNo, call.group? = some groupNo → Listed rosters done groupNo requesterUid
  owner : call.ownerOnly = true → ByOwner ownerUid requesterUid
  peer : ∀ uid, call.peer? = some uid → uid = requesterUid ∨ ByOwner ownerUid requesterUid
  mentions : ∀ uid ∈ call.mentioned, ∃ groupNo members, call.group? = some groupNo ∧
    rosters groupNo = some members ∧ uid ∈ memberUids members

/-- Lookups are free; a request needs a runtime and a requester that it is permitted to. -/
def Permits (situation : Situation) (done : List Issued) : Issued → Prop
  | .membership _ => True
  | .request call => ∃ tool requesterUid, situation.runtime = some tool ∧
      situation.requester = some requesterUid ∧
      Permitted situation.rosters tool.ownerUid requesterUid done call

/-- A thread is read of a group whose name runs into the separator: what stands before the
first separator of the composed id is another group, and that one lists the requester. -/
def Misdirected (situation : Situation) (args : Args) : Prop :=
  ∃ action tool requesterUid, prepare situation args = .ok (action, tool, requesterUid) ∧
    action.threadRead = true ∧ args.text .groupId ≠ [] ∧ args.text .shortId ≠ [] ∧
    let parent := parentGroupNo (threadKey (args.text .groupId) (args.text .shortId))
    parent ≠ args.text .groupId ∧ parent ≠ [] ∧
      ∃ members, situation.rosters parent = some members ∧ requesterUid ∈ memberUids members

variable {situation : Situation} {args : Args} {tool : Tool} {requesterUid : PyStr}
  {action : Action} {done : List Issued}

/-- What holds when a call has passed the gates. -/
structure Prepared (situation : Situation) (args : Args) (action : Action) (tool : Tool)
    (requesterUid : PyStr) : Prop where
  runtime : situation.runtime = some tool
  requester : situation.requester = some requesterUid
  known : requesterUid ≠ []
  groupId : validIdField args .groupId = true
  shortId : validIdField args .shortId = true
  owner : action.ownerOnly = true → ByOwner tool.ownerUid requesterUid

theorem ensure_ok {holds : Bool} {error : PyStr} {value : Unit}
    (ended : ensure holds error = .ok value) : holds = true := by
  unfold ensure at ended
  split at ended
  · assumption
  · cases ended

theorem demand_ok {Value : Type} {asked : Option Value} {error : PyStr} {value : Value}
    (ended : demand asked error = .ok value) : asked = some value := by
  unfold demand at ended
  split at ended
  · cases ended
  · cases ended
    rfl

private theorem prepared_of_prepare
    (ended : prepare situation args = .ok (action, tool, requesterUid)) :
    Prepared situation args action tool requesterUid := by
  unfold prepare at ended
  obtain ⟨named, known, ended⟩ := ok_of_bind ended
  obtain ⟨_, valid, ended⟩ := ok_of_bind ended
  obtain ⟨running, runtime, ended⟩ := ok_of_bind ended
  obtain ⟨_, configured, ended⟩ := ok_of_bind ended
  obtain ⟨asking, requester, ended⟩ := ok_of_bind ended
  obtain ⟨_, groupId, ended⟩ := ok_of_bind ended
  obtain ⟨_, shortId, ended⟩ := ok_of_bind ended
  obtain ⟨_, owner, ended⟩ := ok_of_bind ended
  cases ended
  have trusted := Option.filter_eq_some_iff.mp (demand_ok requester)
  refine ⟨demand_ok runtime, trusted.1, of_decide_eq_true trusted.2, ensure_ok groupId,
    ensure_ok shortId, ?_⟩
  · intro only
    rw [if_pos only] at owner
    exact of_decide_eq_true (ensure_ok owner)

theorem guarded_request (call : ApiCall) :
    Traced.Guarded (Permits situation) done (request call).events ↔
      Permits situation done (.request call) := by
  unfold request
  rw [Traced.guarded_bind, Traced.guarded_emit]
  exact and_iff_left fun _ _ => trivial

/-- What requires arguments goes on only with all of them present. -/
theorem guarded_require (fields : List Field) (next : ToolStep Handled) :
    Traced.Guarded (Permits situation) done (args.require fields >>= fun _ => next).events ↔
      ((∀ field ∈ fields, Mentions.truthy (args.get field) = true) →
        Traced.Guarded (Permits situation) done next.events) := by
  unfold Args.require
  dsimp only
  rw [Traced.guarded_bind]
  by_cases present : fields.filter (fun field => !Mentions.truthy (args.get field)) = []
  · rw [if_pos present]
    have all : ∀ field ∈ fields, Mentions.truthy (args.get field) = true := by
      intro field listed
      have kept := List.filter_eq_nil_iff.mp present field listed
      simpa using kept
    have silent : (pure () : ToolStep Unit).events = [] := rfl
    rw [silent, List.append_nil]
    exact ⟨fun both _ => both.2 () rfl, fun permitted => ⟨trivial, fun _ _ => permitted all⟩⟩
  · rw [if_neg present]
    refine ⟨fun _ all => absurd ?_ present, fun _ => ⟨trivial, nofun⟩⟩
    apply List.filter_eq_nil_iff.mpr
    intro field listed
    simp [all field listed]

/-- A valid id that is present is no empty text. -/
theorem text_of_truthy {field : Field} (valid : validIdField args field = true)
    (present : Mentions.truthy (args.get field) = true) : args.text field ≠ [] := by
  unfold validIdField at valid
  unfold Args.text Args.text?
  cases value : args.get field with
  | str text =>
    rw [value] at present
    simpa [Mentions.truthy] using present
  | null =>
    rw [value] at present
    cases present
  | bool | int | float | arr | obj =>
    rw [value] at valid
    cases valid

theorem truthy_of_text {field : Field} (present : args.text field ≠ []) :
    Mentions.truthy (args.get field) = true := by
  unfold Args.text Args.text? at present
  cases value : args.get field with
  | str text =>
    rw [value] at present
    simpa [Mentions.truthy] using present
  | null | bool | int | float | arr | obj =>
    rw [value] at present
    exact absurd rfl present

theorem guarded_lookups {lookups : List Issued}
    (all : ∀ issued ∈ lookups, ∃ groupNo, issued = .membership groupNo) (done : List Issued) :
    Traced.Guarded (Permits situation) done lookups := by
  induction lookups generalizing done with
  | nil => trivial
  | cons issued rest ih =>
    obtain ⟨groupNo, rfl⟩ := all issued (List.mem_cons_self ..)
    exact ⟨trivial, ih (fun issued listed => all issued (List.mem_cons_of_mem _ listed)) _⟩

theorem authorize_of_check {channelId : PyStr} {channelType : ChannelType}
    {permission : PermissionResult} {lookups : List Issued}
    (checked : checkPermission situation.rosters requesterUid channelId channelType tool.ownerUid =
      ⟨lookups, .ok permission⟩) :
    authorize situation tool requesterUid channelId channelType =
      ⟨lookups, if permission.allowed then .ok permission else .error permission.denial⟩ := by
  unfold authorize
  rw [checked]
  cases allowed : permission.allowed with
  | true =>
    refine (Traced.bind_silent lookups permission ?_).trans ?_ <;> rw [if_pos allowed]
    · rfl
    · rw [if_pos rfl]
      rfl
  | false =>
    have denied : ¬ permission.allowed = true := by
      rw [allowed]
      exact Bool.false_ne_true
    refine (Traced.bind_silent lookups permission ?_).trans ?_ <;> rw [if_neg denied]
    · rfl
    · rw [if_neg Bool.false_ne_true]
      rfl

/-- A check issues lookups only, and what it lets go on was granted on them. -/
theorem authorize_granted (situation : Situation) (tool : Tool) (requesterUid channelId : PyStr)
    (channelType : ChannelType) :
    ∃ permission lookups,
      authorize situation tool requesterUid channelId channelType =
        ⟨lookups, if permission.allowed then .ok permission else .error permission.denial⟩ ∧
      (∀ issued ∈ lookups, ∃ groupNo, issued = .membership groupNo) ∧
      Granted situation.rosters requesterUid channelId channelType tool.ownerUid lookups
        permission := by
  obtain ⟨permission, lookups, checked, only, granted⟩ := checkPermission_granted
    situation.rosters requesterUid channelId channelType tool.ownerUid
  exact ⟨permission, lookups, authorize_of_check checked, only, granted⟩

theorem Listed.mono {rosters : Rosters} {later : List Issued} {groupNo uid : PyStr}
    (listed : Listed rosters done groupNo uid) (kept : ∀ issued ∈ done, issued ∈ later) :
    Listed rosters later groupNo uid := ⟨kept _ listed.1, listed.2⟩

/-- Behind the check of its target a message action knows what it was granted. -/
theorem guarded_authorizeTarget
    {next : PyStr × ChannelType × PermissionResult → ToolStep Handled}
    (after : ∀ channelId channelType permission lookups, permission.allowed = true →
      Granted situation.rosters requesterUid channelId channelType tool.ownerUid lookups
        permission →
      Traced.Guarded (Permits situation) (done ++ lookups)
        (next (channelId, channelType, permission)).events) :
    Traced.Guarded (Permits situation) done
      (authorizeTarget situation tool requesterUid args >>= next).events := by
  unfold authorizeTarget
  generalize parseTarget (args.text .target) tool.knownGroupIds = target
  obtain ⟨channelId, channelType⟩ := target
  dsimp only
  rw [Traced.guarded_bind]
  split
  · exact ⟨trivial, nofun⟩
  · obtain ⟨permission, lookups, checked, only, granted⟩ := authorize_granted situation tool
      requesterUid channelId channelType
    rw [checked]
    cases allowed : permission.allowed with
    | false => exact ⟨guarded_lookups only done, nofun⟩
    | true =>
      have silent : ((⟨lookups, .ok permission⟩ : ToolStep PermissionResult) >>= fun permission =>
          pure (channelId, channelType, permission)) =
            ⟨lookups, .ok (channelId, channelType, permission)⟩ :=
        Traced.bind_silent lookups permission rfl
      rw [if_pos rfl, silent]
      refine ⟨guarded_lookups only done, ?_⟩
      intro value ended
      cases ended
      exact after channelId channelType permission lookups allowed granted

/-- A request to a chat is permitted on what was granted for it. -/
theorem Granted.permits {channelId : PyStr} {channelType : ChannelType}
    {permission : PermissionResult} {lookups : List Issued} {call : ApiCall}
    (granted : Granted situation.rosters requesterUid channelId channelType tool.ownerUid lookups
      permission)
    (prepared : Prepared situation args action tool requesterUid)
    (allowed : permission.allowed = true) (group : call.group? = chatGroup? channelId channelType)
    (member : call.ownerOnly = false)
    (peer : ∀ uid, call.peer? = some uid → channelType = .DM ∧ uid = channelId)
    (mentions : ∀ uid ∈ call.mentioned, channelType ≠ .DM ∧
      ∃ uids, permission.roster = some uids ∧ uid ∈ uids) :
    Permits situation (done ++ lookups) (.request call) := by
  refine ⟨tool, requesterUid, prepared.runtime, prepared.requester, ?_, ?_, ?_, ?_⟩
  · intro groupNo named
    exact (granted.listed allowed groupNo (group ▸ named)).mono
      fun issued listed => List.mem_append_right done listed
  · intro only
    rw [member] at only
    cases only
  · intro uid named
    obtain ⟨direct, rfl⟩ := peer uid named
    exact (granted.direct allowed direct).symm
  · intro uid mentioned
    obtain ⟨grouped, uids, given, present⟩ := mentions uid mentioned
    have named : ∃ groupNo, chatGroup? channelId channelType = some groupNo := by
      cases channelType with
      | DM => exact absurd rfl grouped
      | Group => exact ⟨channelId, rfl⟩
      | CommunityTopic => exact ⟨parentGroupNo channelId, rfl⟩
    obtain ⟨groupNo, named⟩ := named
    obtain ⟨members, found, same⟩ := granted.roster uids given groupNo named
    exact ⟨groupNo, members, group.trans named, found, same ▸ present⟩

private theorem guarded_readMessages (prepared : Prepared situation args action tool requesterUid) :
    Traced.Guarded (Permits situation) done
      (readMessages situation tool requesterUid args).events := by
  unfold readMessages
  rw [guarded_require]
  intro _
  apply guarded_authorizeTarget
  intro channelId channelType permission lookups allowed granted
  rw [guarded_request]
  refine granted.permits prepared allowed rfl rfl ?_ nofun
  intro uid named
  cases channelType with
  | DM =>
    cases named
    exact ⟨rfl, rfl⟩
  | Group | CommunityTopic => cases named

private theorem guarded_sendMessage (prepared : Prepared situation args action tool requesterUid) :
    Traced.Guarded (Permits situation) done
      (sendMessage situation tool requesterUid args).events := by
  unfold sendMessage
  rw [guarded_require]
  intro _
  apply guarded_authorizeTarget
  intro channelId channelType permission lookups allowed granted
  dsimp only
  split
  · trivial
  · rw [guarded_request]
    refine granted.permits prepared allowed rfl rfl ?_ ?_
    · intro uid named
      cases channelType with
      | DM =>
        cases named
        exact ⟨rfl, rfl⟩
      | Group | CommunityTopic => cases named
    · intro uid mentioned
      unfold ApiCall.mentioned at mentioned
      dsimp only at mentioned
      split at mentioned
      · cases mentioned
      · rename_i kept
        refine ⟨fun direct => kept (.inr direct), ?_⟩
        cases asked : args.texts? .mentionUids with
        | none =>
          rw [asked] at mentioned
          cases mentioned
        | some uids =>
          rw [asked] at mentioned
          obtain ⟨roster, given, present⟩ := (Option.any_eq_true _ _).mp
            (List.mem_filter.mp mentioned).2
          exact ⟨roster, given, of_decide_eq_true present⟩

theorem permits_owner (prepared : Prepared situation args action tool requesterUid)
    (owner : ByOwner tool.ownerUid requesterUid) {call : ApiCall} (group : call.group? = none)
    (peer : call.peer? = none) (mentions : call.mentioned = []) :
    Permits situation done (.request call) := by
  refine ⟨tool, requesterUid, prepared.runtime, prepared.requester, ?_, fun _ => owner, ?_, ?_⟩
  · intro groupNo named
    rw [group] at named
    cases named
  · intro uid named
    rw [peer] at named
    cases named
  · intro uid mentioned
    rw [mentions] at mentioned
    cases mentioned

private theorem guarded_ownerAction (prepared : Prepared situation args action tool requesterUid)
    (only : action.ownerOnly = true) :
    Traced.Guarded (Permits situation) done
      (perform situation tool requesterUid args action).events := by
  have owner := prepared.owner only
  cases action with
  | listGroups | searchMembers | voiceContextRead | voiceContextDelete =>
    exact (guarded_request _).mpr (permits_owner prepared owner rfl rfl rfl)
  | createGroup | addMembers | removeMembers | groupMdUpdate | createThread | deleteThread
  | joinThread | leaveThread | threadMdUpdate | voiceContextUpdate =>
    refine (guarded_require _ _).mpr fun _ => ?_
    exact (guarded_request _).mpr (permits_owner prepared owner rfl rfl rfl)
  | updateGroup =>
    refine (guarded_require _ _).mpr fun _ => ?_
    split
    · trivial
    · exact (guarded_request _).mpr (permits_owner prepared owner rfl rfl rfl)
  | _ => cases only

theorem permits_read_iff (prepared : Prepared situation args action tool requesterUid)
    {call : ApiCall} {groupNo : PyStr} (group : call.group? = some groupNo)
    (member : call.ownerOnly = false) (peer : call.peer? = none) (mentions : call.mentioned = []) :
    Permits situation done (.request call) ↔
      Listed situation.rosters done groupNo requesterUid := by
  constructor
  · rintro ⟨_, uid, _, requester, permitted⟩
    rw [prepared.requester] at requester
    cases requester
    exact permitted.group groupNo group
  · intro listed
    refine ⟨tool, requesterUid, prepared.runtime, prepared.requester, ?_, ?_, ?_, ?_⟩
    · intro other named
      rw [group] at named
      cases named
      exact listed
    · intro only
      rw [member] at only
      cases only
    · intro uid named
      rw [peer] at named
      cases named
    · intro uid mentioned
      rw [mentions] at mentioned
      cases mentioned

/-- A read of a group is guarded by a lookup of that group. -/
private theorem guarded_groupRead_iff (prepared : Prepared situation args action tool requesterUid)
    (read : action.groupRead = true) :
    Traced.Guarded (Permits situation) done
        (perform situation tool requesterUid args action).events ↔
      (args.text .groupId ≠ [] →
        Listed situation.rosters done (args.text .groupId) requesterUid) := by
  have required : (∀ field ∈ [Field.groupId], Mentions.truthy (args.get field) = true) ↔
      args.text .groupId ≠ [] := by
    rw [List.forall_mem_singleton]
    exact ⟨text_of_truthy prepared.groupId, truthy_of_text⟩
  cases action with
  | groupInfo | groupMembers | groupMdRead | listThreads =>
    refine (guarded_require _ _).trans (imp_congr required ?_)
    exact (guarded_request _).trans (permits_read_iff prepared rfl rfl rfl rfl)
  | _ => cases read

/-- So is a read of a thread, by a lookup of the group that its request names. -/
private theorem guarded_threadRead_iff (prepared : Prepared situation args action tool requesterUid)
    (read : action.threadRead = true) :
    Traced.Guarded (Permits situation) done
        (perform situation tool requesterUid args action).events ↔
      (args.text .groupId ≠ [] ∧ args.text .shortId ≠ [] →
        Listed situation.rosters done (args.text .groupId) requesterUid) := by
  have required : (∀ field ∈ [Field.groupId, Field.shortId],
      Mentions.truthy (args.get field) = true) ↔
        args.text .groupId ≠ [] ∧ args.text .shortId ≠ [] := by
    rw [List.forall_mem_cons, List.forall_mem_singleton]
    exact and_congr ⟨text_of_truthy prepared.groupId, truthy_of_text⟩
      ⟨text_of_truthy prepared.shortId, truthy_of_text⟩
  cases action with
  | getThread | listThreadMembers | threadMdRead =>
    refine (guarded_require _ _).trans (imp_congr required ?_)
    exact (guarded_request _).trans (permits_read_iff prepared rfl rfl rfl rfl)
  | _ => cases read

/-- What stands behind a check is guarded by the lookups of the check. -/
theorem guarded_after_authorize {channelId : PyStr} {channelType : ChannelType}
    {permission : PermissionResult} {lookups : List Issued}
    (checked : authorize situation tool requesterUid channelId channelType =
      ⟨lookups, if permission.allowed then .ok permission else .error permission.denial⟩)
    (only : ∀ issued ∈ lookups, ∃ groupNo, issued = .membership groupNo)
    (next : ToolStep Handled) :
    Traced.Guarded (Permits situation) [] ((do
        let _ ← authorize situation tool requesterUid channelId channelType
        pure () : ToolStep Unit) >>= fun _ => next).events ↔
      (permission.allowed = true → Traced.Guarded (Permits situation) lookups next.events) := by
  have looked : Traced.Guarded (Permits situation) [] lookups := guarded_lookups only []
  rw [checked]
  cases permission.allowed with
  | true =>
    have silent : ((⟨lookups, .ok permission⟩ : ToolStep PermissionResult) >>= fun _ =>
        (pure () : ToolStep Unit)) = ⟨lookups, .ok ()⟩ := Traced.bind_silent lookups permission rfl
    rw [if_pos rfl, silent, Traced.guarded_bind]
    exact ⟨fun both _ => both.2 () rfl, fun after => ⟨looked, fun _ _ => after rfl⟩⟩
  | false =>
    rw [if_neg Bool.false_ne_true]
    exact ⟨fun _ => nofun, fun _ => looked⟩

private theorem guarded_searchSharedGroups :
    Traced.Guarded (Permits situation) done (searchSharedGroups tool requesterUid args).events := by
  unfold searchSharedGroups
  dsimp only
  generalize (if strip (args.text .target) = [] then requesterUid
    else strip (args.text .target)) = subject
  split <;> trivial

/-- A read of a group is looked up under the id that it names. -/
private theorem guarded_groupRead (prepared : Prepared situation args action tool requesterUid)
    (read : action.groupRead = true) :
    Traced.Guarded (Permits situation) [] (authorizeGroupOrThreadRead situation tool requesterUid
      args action >>= fun _ => perform situation tool requesterUid args action).events := by
  have whole : action.threadRead = false := by
    cases action <;> first | rfl | cases read
  have guarded := @guarded_groupRead_iff situation args tool requesterUid action
  unfold authorizeGroupOrThreadRead
  rw [read, whole]
  dsimp only
  by_cases bare : args.text .groupId = []
  · rw [if_neg (by decide), if_pos bare]
    exact (guarded prepared read).mpr fun named => absurd bare named
  · rw [if_neg (by decide), if_neg bare, if_neg Bool.false_ne_true]
    obtain ⟨permission, lookups, checked, only, granted⟩ := authorize_granted situation tool
      requesterUid (args.text .groupId) .Group
    rw [guarded_after_authorize checked only]
    intro allowed
    exact (guarded prepared read).mpr fun _ => granted.listed allowed _ rfl

/-- A read of a thread is looked up under the group before the first separator of the
composed id, which need not be the group that the request names. -/
private theorem guarded_threadRead (prepared : Prepared situation args action tool requesterUid)
    (read : action.threadRead = true) :
    Traced.Guarded (Permits situation) [] (authorizeGroupOrThreadRead situation tool requesterUid
        args action >>= fun _ => perform situation tool requesterUid args action).events ↔
      ¬ (args.text .groupId ≠ [] ∧ args.text .shortId ≠ [] ∧
        let parent := parentGroupNo (threadKey (args.text .groupId) (args.text .shortId))
        parent ≠ args.text .groupId ∧ parent ≠ [] ∧
          ∃ members, situation.rosters parent = some members ∧
            requesterUid ∈ memberUids members) := by
  have gated : ¬ (!(action.groupRead || action.threadRead)) = true := by
    rw [read, Bool.or_true]
    exact Bool.false_ne_true
  have guarded := @guarded_threadRead_iff situation args tool requesterUid action
  unfold authorizeGroupOrThreadRead
  dsimp only
  rw [if_neg gated, if_pos read]
  by_cases group : args.text .groupId = []
  · rw [if_pos group]
    exact iff_of_true ((guarded prepared read).mpr fun both => absurd group both.1)
      fun misdirected => misdirected.1 group
  by_cases short : args.text .shortId = []
  · rw [if_neg group, if_pos short]
    exact iff_of_true ((guarded prepared read).mpr fun both => absurd short both.2)
      fun misdirected => misdirected.2.1 short
  rw [if_neg group, if_neg short]
  generalize channel : threadKey (args.text .groupId) (args.text .shortId) = channelId
  by_cases named : parentGroupNo channelId = []
  · have checked : checkPermission situation.rosters requesterUid channelId .CommunityTopic
        tool.ownerUid = ⟨[], .ok (.deny "Invalid thread channel ID")⟩ := by
      unfold checkPermission
      rw [if_neg prepared.known]
      exact if_pos named
    rw [guarded_after_authorize (authorize_of_check checked) nofun]
    exact iff_of_true nofun fun misdirected => misdirected.2.2.2.1 named
  · obtain ⟨permission, checked, allowed⟩ := checkPermission_topic situation.rosters tool.ownerUid
      prepared.known named
    rw [guarded_after_authorize (authorize_of_check checked) (by simp), allowed,
      guarded prepared read]
    constructor
    · intro listed misdirected
      obtain ⟨_, _, other, _, member⟩ := misdirected
      have lookup := (listed member ⟨group, short⟩).1
      rw [List.mem_singleton] at lookup
      exact other (Issued.membership.inj lookup).symm
    · intro directed member _
      have same : parentGroupNo channelId = args.text .groupId := by
        by_contra other
        exact directed ⟨group, short, other, named, member⟩
      exact ⟨by rw [same]; exact List.mem_cons_self .., same ▸ member⟩

/-- A call that has passed the gates is guarded unless it reads a thread of another group
than the one it looked up. -/
private theorem guarded_prepared_iff (prepared : Prepared situation args action tool requesterUid) :
    Traced.Guarded (Permits situation) [] (authorizeGroupOrThreadRead situation tool requesterUid
        args action >>= fun _ => perform situation tool requesterUid args action).events ↔
      ¬ (action.threadRead = true ∧ args.text .groupId ≠ [] ∧ args.text .shortId ≠ [] ∧
        let parent := parentGroupNo (threadKey (args.text .groupId) (args.text .shortId))
        parent ≠ args.text .groupId ∧ parent ≠ [] ∧
          ∃ members, situation.rosters parent = some members ∧
            requesterUid ∈ memberUids members) := by
  cases threadRead : action.threadRead with
  | true =>
    rw [guarded_threadRead prepared threadRead]
    exact not_congr ⟨fun misdirected => ⟨rfl, misdirected⟩, And.right⟩
  | false =>
    refine iff_of_true ?_ fun both => Bool.false_ne_true both.1
    cases groupRead : action.groupRead with
    | true => exact guarded_groupRead prepared groupRead
    | false =>
      unfold authorizeGroupOrThreadRead
      dsimp only
      rw [groupRead, threadRead]
      show Traced.Guarded (Permits situation) []
        (perform situation tool requesterUid args action).events
      cases action with
      | readMessages => exact guarded_readMessages prepared
      | sendMessage => exact guarded_sendMessage prepared
      | searchSharedGroups => exact guarded_searchSharedGroups
      | groupInfo | groupMembers | groupMdRead | listThreads => cases groupRead
      | getThread | listThreadMembers | threadMdRead => cases threadRead
      | _ => exact guarded_ownerAction prepared rfl

section

variable {other : Args}
  (same : ∀ field : Field, other.get? (py field.key) = args.get? (py field.key))

include same

private theorem has_congr : Args.has other = Args.has args :=
  funext fun field => congrArg Option.isSome (same field)

theorem get_congr : Args.get other = Args.get args :=
  funext fun field => congrArg (fun value => Option.getD value Json.null) (same field)

theorem text?_congr : Args.text? other = Args.text? args := by
  funext field
  unfold Args.text?
  rw [get_congr same]

theorem text_congr : Args.text other = Args.text args := by
  funext field
  unfold Args.text
  rw [text?_congr same]

private theorem texts?_congr : Args.texts? other = Args.texts? args := by
  funext field
  unfold Args.texts?
  rw [get_congr same]

private theorem limitOr_congr : Args.limitOr other = Args.limitOr args := by
  funext default
  unfold Args.limitOr
  rw [get_congr same]

private theorem require_congr : Args.require other = Args.require args := by
  funext fields
  unfold Args.require
  rw [get_congr same]

private theorem prepare_congr : prepare situation other = prepare situation args := by
  have checked : checkArgs other = checkArgs args := by
    unfold checkArgs Args.validateManagementArgs
    rw [has_congr same, get_congr same]
  have ids : validIdField other = validIdField args := by
    funext field
    unfold validIdField
    rw [get_congr same]
  have unknown : unknownAction situation other = unknownAction situation args := by
    unfold unknownAction
    rw [get_congr same]
  unfold prepare
  rw [checked, ids, unknown, text?_congr same]

private theorem authorizeGroupOrThreadRead_congr :
    authorizeGroupOrThreadRead situation tool requesterUid other =
      authorizeGroupOrThreadRead situation tool requesterUid args := by
  unfold authorizeGroupOrThreadRead
  rw [text_congr same]

private theorem perform_congr :
    perform situation tool requesterUid other = perform situation tool requesterUid args := by
  funext action
  unfold perform readMessages sendMessage searchSharedGroups authorizeTarget
  rw [text_congr same, text?_congr same, texts?_congr same, limitOr_congr same,
    require_congr same, get_congr same]

/-- A call depends on the fields of the schema only, whatever else its arguments claim. -/
private theorem octoManagementHandler_congr :
    octoManagementHandler situation other = octoManagementHandler situation args := by
  unfold octoManagementHandler
  rw [prepare_congr same]
  refine congrArg (Bind.bind _) (funext fun prepared => ?_)
  obtain ⟨action, tool, requesterUid⟩ := prepared
  dsimp only
  rw [authorizeGroupOrThreadRead_congr same, perform_congr same]

end

/-- Every request of a call is permitted, and the call depends on no claim of its arguments
about who asks, exactly when it is not misdirected. -/
theorem octoManagementHandler_authorised_iff (situation : Situation) (args : Args) :
    (Traced.Guarded (Permits situation) [] (octoManagementHandler situation args).events ∧
        ∀ other : Args,
          (∀ field : Field, other.get? (py field.key) = args.get? (py field.key)) →
          octoManagementHandler situation other = octoManagementHandler situation args) ↔
      ¬ Misdirected situation args := by
  refine (and_iff_left fun other same => octoManagementHandler_congr same).trans ?_
  unfold octoManagementHandler
  cases ended : prepare situation args with
  | error error =>
    refine iff_of_true trivial ?_
    rintro ⟨action, tool, requesterUid, prepared, _⟩
    rw [ended] at prepared
    cases prepared
  | ok value =>
    obtain ⟨action, tool, requesterUid⟩ := value
    have guarded := guarded_prepared_iff (prepared_of_prepare ended)
    rw [Traced.guarded_bind]
    constructor
    · rintro both ⟨_, _, _, prepared, misdirected⟩
      rw [ended] at prepared
      cases prepared
      exact guarded.mp (both.2 _ rfl) misdirected
    · intro directed
      refine ⟨trivial, ?_⟩
      intro value same
      cases same
      exact guarded.mpr fun misdirected => directed ⟨action, tool, requesterUid, ended, misdirected⟩

/-- A group `a` with the requester, and a group `a_` without. -/
def strangerSituation : Situation where
  runtime := some ⟨py "https://api", py "token", py "owner", [], [], fun _ => []⟩
  requester := some (py "u")
  rosters groupNo := if groupNo = py "a" then some [py "u"]
    else if groupNo = py "a_" then some [py "v"] else none
  clientMsgNo := py "m"
  repr _ := []

/-- THREAD.md of a thread of `a_`. -/
def strangerArgs : Args :=
  Dict.empty.setAll [(py "action", .str (py "thread-md-read")), (py "group_id", .str (py "a_")),
    (py "short_id", .str (py "t"))]

/-- It is read for a member of `a`. -/
theorem strangerArgs_not_guarded :
    ¬ Traced.Guarded (Permits strangerSituation) []
      (octoManagementHandler strangerSituation strangerArgs).events := by
  have issued : (octoManagementHandler strangerSituation strangerArgs).events =
      [.membership (py "a"), .request (.getThreadMd (py "a_") (py "t"))] := by
    decide
  rw [issued]
  intro guarded
  obtain ⟨_, ⟨tool, requesterUid, _, _, permitted⟩, _⟩ := guarded
  have lookup := (permitted.group (py "a_") rfl).1
  revert lookup
  decide

end OctoChannel.Tools

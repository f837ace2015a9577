import OctoChannel.Foundation.Runs
import OctoChannel.Chats.Caches
import Mathlib.Data.Finset.Sort

namespace OctoChannel.Chats

open Foundation Identity

structure SharedGroup where
  groupNo : PyStr
  name : PyStr
  deriving DecidableEq

/-- The order of `sorted` on strings, by code points. -/
def TextLE (first second : PyStr) : Prop := first ≤ second

instance decidableTextLE : DecidableRel TextLE :=
  fun first second => inferInstanceAs (Decidable (first ≤ second))

instance transTextLE : IsTrans PyStr TextLE := ⟨fun _ _ _ => le_trans⟩

instance antisymmTextLE : Std.Antisymm TextLE := ⟨fun _ _ => le_antisymm⟩

instance totalTextLE : Std.Total TextLE := ⟨le_total⟩

namespace Caches

variable {Names : Type} (caches : Caches Names)

/-- `find_shared_groups` -/
def findSharedGroups (uid : PyStr) : List SharedGroup :=
  if uid = [] then []
  else match caches.userGroupIndex.get? uid with
    | none => []
    | some groups =>
      if groups = ∅ then []
      else (groups.sort TextLE).map fun gid => ⟨gid, (caches.groupNames.get? gid).getD gid⟩

theorem groups_findSharedGroups (uid : PyStr) :
    (caches.findSharedGroups uid).map SharedGroup.groupNo =
      if uid = [] then [] else (caches.userGroupIndex.members uid).sort TextLE := by
  unfold findSharedGroups Links.members
  by_cases unnamed : uid = []
  · rw [if_pos unnamed, if_pos unnamed]
    rfl
  · rw [if_neg unnamed, if_neg unnamed]
    cases caches.userGroupIndex.get? uid with
    | none => exact (Finset.sort_empty _).symm
    | some groups =>
      dsimp only [Option.getD_some]
      split
      · rename_i none
        rw [none]
        exact (Finset.sort_empty _).symm
      · rw [List.map_map]
        exact List.map_id _

section Edits

variable {caches} {uid group : PyStr}

/-- What a roster says of a uid: the bot's own and a missing one are left out. -/
def Lists (robotId : PyStr) (members : List GroupMember) (uid : PyStr) : Prop :=
  uid ∈ members.map GroupMember.uid ∧ uid ≠ [] ∧ uid ≠ robotId

private theorem mem_freshUids {robotId : PyStr} {members : List GroupMember} :
    uid ∈ (members.map GroupMember.uid).filter (fun uid => uid ≠ [] ∧ uid ≠ robotId) ↔
      Lists robotId members uid := by
  rw [List.mem_filter, decide_eq_true_iff]
  exact Iff.rfl

/-- A roster decides on its own group only, and on that group for every uid. -/
theorem mem_updateUserGroupIndex (robotId : PyStr) {groupNo : PyStr} (named : groupNo ≠ [])
    (members : List GroupMember) :
    group ∈ (caches.updateUserGroupIndex robotId groupNo members).userGroupIndex.members uid ↔
      if groupNo = group then Lists robotId members uid
      else group ∈ caches.userGroupIndex.members uid := by
  rw [updateUserGroupIndex, if_neg named]
  dsimp only
  rw [Links.mem_members_filterMapValues, ← mem_freshUids]
  have added := @Links.mem_members_links _ _ _ _ caches.userGroupIndex
    ((members.map GroupMember.uid).filter (fun uid => uid ≠ [] ∧ uid ≠ robotId)) uid groupNo group
  rw [Links.mem_members_iff] at added
  generalize (members.map GroupMember.uid).filter (fun uid => uid ≠ [] ∧ uid ≠ robotId) = fresh at *
  constructor
  · rintro ⟨groups, left, stored, changed, member⟩
    split at changed
    · rename_i stale
      split at changed
      · cases changed
      · cases changed
        obtain ⟨different, present⟩ := Finset.mem_erase.mp member
        rw [if_neg (Ne.symm different)]
        exact (added.mp ⟨groups, stored, present⟩).resolve_left fun own => different own.1
    · rename_i kept
      cases changed
      split
      · rename_i own
        subst own
        by_contra absent
        exact kept ⟨member, absent⟩
      · rename_i different
        exact (added.mp ⟨groups, stored, member⟩).resolve_left fun own => different own.1.symm
  · intro listed
    have entered : group = groupNo ∧ uid ∈ fresh ∨ group ∈ caches.userGroupIndex.members uid := by
      split at listed
      · rename_i own
        exact .inl ⟨own.symm, listed⟩
      · exact .inr listed
    obtain ⟨groups, stored, present⟩ := added.mpr entered
    by_cases stale : groupNo ∈ groups ∧ uid ∉ fresh
    · have different : group ≠ groupNo := by
        rintro rfl
        rw [if_pos rfl] at listed
        exact stale.2 listed
      have member : group ∈ groups.erase groupNo := Finset.mem_erase.mpr ⟨different, present⟩
      refine ⟨groups, groups.erase groupNo, stored, ?_, member⟩
      rw [if_pos stale, if_neg (Finset.ne_empty_of_mem member)]
    · exact ⟨groups, groups, stored, if_neg stale, present⟩

private theorem occupied_updateUserGroupIndex (occupied : caches.userGroupIndex.Occupied)
    (robotId groupNo : PyStr) (members : List GroupMember) :
    (caches.updateUserGroupIndex robotId groupNo members).userGroupIndex.Occupied := by
  unfold updateUserGroupIndex
  split
  · exact occupied
  · apply Links.occupied_filterMapValues (Links.occupied_links occupied _ _)
    intro key values left filled changed
    split at changed
    · split at changed
      · cases changed
      · rename_i remains
        cases changed
        exact Finset.nonempty_iff_ne_empty.mpr remains
    · cases changed
      exact filled

theorem index_evictGroupMembershipCache (groupNo : PyStr) :
    (caches.evictGroupMembershipCache groupNo).userGroupIndex =
      caches.userGroupIndex.discard groupNo := rfl

theorem index_evictGroupScope (groupNo : PyStr) (refused : PyStr → Bool) :
    (caches.evictGroupScope groupNo refused).userGroupIndex =
      caches.userGroupIndex.discard groupNo := rfl

theorem index_sweepChannel (channelId : PyStr) :
    (caches.sweepChannel channelId).userGroupIndex =
      if hasThreadSeparator channelId then caches.userGroupIndex
      else caches.userGroupIndex.discard channelId := by
  unfold sweepChannel
  dsimp only
  split
  · rfl
  · rfl

/-- The channels that a sweep takes. -/
def Stale (caches : Caches Names) (cutoff : Int) (channelId : PyStr) : Prop :=
  ∃ time, caches.cacheActivity.get? channelId = some time ∧ time < cutoff

theorem mem_stale {cutoff : Int} {channelId : PyStr} :
    channelId ∈ (caches.cacheActivity.entries.filter fun entry => entry.2 < cutoff).map Prod.fst ↔
      caches.Stale cutoff channelId := by
  simp only [List.mem_map, List.mem_filter, decide_eq_true_iff]
  constructor
  · rintro ⟨⟨name, time⟩, ⟨stored, old⟩, rfl⟩
    exact ⟨time, (Dict.mem_entries_iff _ _ _).mp stored, old⟩
  · rintro ⟨time, stored, old⟩
    exact ⟨(channelId, time), ⟨(Dict.mem_entries_iff _ _ _).mpr stored, old⟩, rfl⟩

theorem mem_sweepChannels (channels : List PyStr) :
    group ∈ (channels.foldl sweepChannel caches).userGroupIndex.members uid ↔
      ¬ (group ∈ channels ∧ hasThreadSeparator group = false) ∧
        group ∈ caches.userGroupIndex.members uid := by
  induction channels generalizing caches with
  | nil => simp
  | cons first rest ih =>
    rw [List.foldl_cons, ih, index_sweepChannel, List.mem_cons]
    cases thread : hasThreadSeparator first with
    | true =>
      rw [if_pos rfl]
      have other : hasThreadSeparator group = false → group ≠ first := by
        rintro parent rfl
        rw [thread] at parent
        cases parent
      tauto
    | false =>
      rw [if_neg Bool.false_ne_true, Links.mem_members_discard]
      have own : group = first → hasThreadSeparator group = false := by
        rintro rfl
        exact thread
      tauto

private theorem occupied_sweepChannels (occupied : caches.userGroupIndex.Occupied)
    (channels : List PyStr) : (channels.foldl sweepChannel caches).userGroupIndex.Occupied := by
  induction channels generalizing caches with
  | nil => exact occupied
  | cons first rest ih =>
    apply ih
    rw [index_sweepChannel]
    split
    · exact occupied
    · exact occupied.discard first

end Edits

end Caches

/-- What can happen to the index; everything else a runtime does to its caches leaves
the index alone. -/
inductive IndexEvent (Names : Type) where
  | commit (groupNo : PyStr) (members : List GroupMember)
  | evictMembership (groupNo : PyStr)
  | evictScope (groupNo : PyStr) (refused : PyStr → Bool)
  | cleanup (cutoff : Int)
  | other (change : Caches Names → Caches Names)
      (keeps : ∀ caches, (change caches).userGroupIndex = caches.userGroupIndex)

namespace IndexEvent

variable {Names : Type} (learn : Names → List GroupMember → Names) (robotId : PyStr)

def step (caches : Caches Names) : IndexEvent Names → Caches Names
  | commit groupNo members => caches.cacheGroupMembers learn robotId groupNo members
  | evictMembership groupNo => caches.evictGroupMembershipCache groupNo
  | evictScope groupNo refused => caches.evictGroupScope groupNo refused
  | cleanup cutoff => caches.cleanupCaches cutoff
  | other change _ => change caches

/-- The event is about a group; a sweep is about the idle groups, and an idle thread
says nothing of its group. -/
def Touches (group : PyStr) (caches : Caches Names) : IndexEvent Names → Prop
  | commit groupNo _ => parentGroupNo groupNo = group
  | evictMembership groupNo => groupNo = group
  | evictScope groupNo _ => groupNo = group
  | cleanup cutoff => caches.Stale cutoff group ∧ hasThreadSeparator group = false
  | other _ _ => False

/-- A roster commit with a member of that uid, who is not the bot itself. -/
def Admits (uid : PyStr) : IndexEvent Names → Prop
  | commit _ members => Caches.Lists robotId members uid
  | _ => False

def machine (names : Names) (mdFiles : Dict PyStr MdEntry) :
    Machine (Caches Names) (IndexEvent Names) :=
  ⟨.empty names mdFiles, step learn robotId⟩

variable {learn robotId} {uid group : PyStr}

/-- An event about a group settles who is in it. -/
private theorem mem_step_of_touches (named : group ≠ []) (caches : Caches Names)
    (event : IndexEvent Names)
    (touches : event.Touches group caches) :
    group ∈ (step learn robotId caches event).userGroupIndex.members uid ↔
      event.Admits robotId uid := by
  cases event with
  | commit groupNo members =>
    have nonblank : parentGroupNo groupNo ≠ [] := touches ▸ named
    exact (Caches.mem_updateUserGroupIndex robotId nonblank members).trans (iff_of_eq (if_pos touches))
  | evictMembership groupNo =>
    refine iff_of_false ?_ id
    rw [step, Caches.index_evictGroupMembershipCache, Links.mem_members_discard]
    exact fun present => present.1 touches.symm
  | evictScope groupNo refused =>
    refine iff_of_false ?_ id
    rw [step, Caches.index_evictGroupScope, Links.mem_members_discard]
    exact fun present => present.1 touches.symm
  | cleanup cutoff =>
    refine iff_of_false ?_ id
    rw [step, Caches.cleanupCaches, Caches.mem_sweepChannels, Caches.mem_stale]
    exact fun present => present.1 touches
  | other change keeps => exact absurd touches id

/-- Every other event leaves the group as it was. -/
theorem mem_step_of_not_touches (caches : Caches Names) (event : IndexEvent Names)
    (elsewhere : ¬ event.Touches group caches) :
    group ∈ (step learn robotId caches event).userGroupIndex.members uid ↔
      group ∈ caches.userGroupIndex.members uid := by
  cases event with
  | commit groupNo members =>
    by_cases blank : parentGroupNo groupNo = []
    · rw [step, Caches.cacheGroupMembers, Caches.updateUserGroupIndex, if_pos blank]
    · exact (Caches.mem_updateUserGroupIndex robotId blank members).trans (iff_of_eq (if_neg elsewhere))
  | evictMembership groupNo =>
    rw [step, Caches.index_evictGroupMembershipCache, Links.mem_members_discard]
    exact and_iff_right (Ne.symm elsewhere)
  | evictScope groupNo refused =>
    rw [step, Caches.index_evictGroupScope, Links.mem_members_discard]
    exact and_iff_right (Ne.symm elsewhere)
  | cleanup cutoff =>
    rw [step, Caches.cleanupCaches, Caches.mem_sweepChannels, Caches.mem_stale]
    exact and_iff_right elsewhere
  | other change keeps => rw [step, keeps]

private theorem occupied_step (caches : Caches Names) (event : IndexEvent Names)
    (occupied : caches.userGroupIndex.Occupied) :
    (step learn robotId caches event).userGroupIndex.Occupied := by
  cases event with
  | commit groupNo members =>
    unfold step Caches.cacheGroupMembers
    exact Caches.occupied_updateUserGroupIndex (by exact occupied) robotId _ members
  | evictMembership groupNo => exact occupied.discard groupNo
  | evictScope groupNo refused => exact occupied.discard groupNo
  | cleanup cutoff => exact Caches.occupied_sweepChannels occupied _
  | other change keeps => exact (keeps caches).symm ▸ occupied

private theorem mem_run_iff (named : group ≠ []) (names : Names) (mdFiles : Dict PyStr MdEntry)
    (events : List (IndexEvent Names)) :
    group ∈ ((machine learn robotId names mdFiles).run events).userGroupIndex.members uid ↔
      ∃ event, (machine learn robotId names mdFiles).Latest
        (fun caches event => event.Touches group caches) events event ∧ event.Admits robotId uid :=
  @Machine.holds_iff_latest _ _ (machine learn robotId names mdFiles)
    (fun caches event => event.Touches group caches)
    (fun caches => group ∈ caches.userGroupIndex.members uid) (Admits robotId uid)
    (Finset.notMem_empty group) (mem_step_of_touches named) mem_step_of_not_touches events

/-- The empty group id never comes into the index. -/
private theorem not_mem_blank (names : Names) (mdFiles : Dict PyStr MdEntry)
    (events : List (IndexEvent Names)) :
    [] ∉ ((machine learn robotId names mdFiles).run events).userGroupIndex.members uid := by
  apply @Machine.invariant_of_steps _ _ (machine learn robotId names mdFiles)
    (fun caches => [] ∉ caches.userGroupIndex.members uid) (Finset.notMem_empty _)
  intro caches event absent
  cases event with
  | commit groupNo members =>
    by_cases blank : parentGroupNo groupNo = []
    · change [] ∉ (Caches.updateUserGroupIndex _ _ _ _).userGroupIndex.members uid
      rw [Caches.updateUserGroupIndex, if_pos blank]
      exact absent
    · exact fun present => absent ((mem_step_of_not_touches caches (commit groupNo members) blank).mp present)
  | evictMembership groupNo => exact fun present => absent (Links.mem_members_discard.mp present).2
  | evictScope groupNo refused => exact fun present => absent (Links.mem_members_discard.mp present).2
  | cleanup cutoff => exact fun present => absent ((Caches.mem_sweepChannels _).mp present).2
  | other change keeps => exact fun present => absent (keeps caches ▸ present)

/-- A group is listed when the last event about it is a roster with the uid. -/
theorem sharedGroups_exact (learn : Names → List GroupMember → Names) (robotId : PyStr)
    (names : Names) (mdFiles : Dict PyStr MdEntry) (events : List (IndexEvent Names)) :
    let runtime := machine learn robotId names mdFiles
    let caches := runtime.run events
    (∀ uid group, group ∈ (caches.findSharedGroups uid).map SharedGroup.groupNo ↔
      uid ≠ [] ∧ group ≠ [] ∧ ∃ groupNo members,
        runtime.Latest (fun caches event => event.Touches group caches) events
          (commit groupNo members) ∧
        uid ∈ members.map GroupMember.uid ∧ uid ≠ robotId) ∧
    (∀ uid, ((caches.findSharedGroups uid).map SharedGroup.groupNo).Pairwise (· < ·)) ∧
    ∀ uid groups, caches.userGroupIndex.get? uid = some groups → groups ≠ ∅ := by
  intro runtime caches
  have occupied : caches.userGroupIndex.Occupied :=
    @Machine.invariant_of_steps _ _ runtime (fun caches => caches.userGroupIndex.Occupied)
      Links.occupied_empty occupied_step events
  refine ⟨?_, ?_, ?_⟩
  · intro uid group
    rw [Caches.groups_findSharedGroups]
    by_cases unnamed : uid = []
    · rw [if_pos unnamed]
      exact iff_of_false List.not_mem_nil fun listed => listed.1 unnamed
    · rw [if_neg unnamed, Finset.mem_sort, and_iff_right unnamed]
      by_cases blank : group = []
      · exact iff_of_false (blank ▸ not_mem_blank names mdFiles events) fun listed => listed.1 blank
      · rw [and_iff_right blank]
        apply (mem_run_iff blank names mdFiles events).trans
        constructor
        · rintro ⟨event, latest, admits⟩
          cases event with
          | commit groupNo members => exact ⟨groupNo, members, latest, admits.1, admits.2.2⟩
          | evictMembership | evictScope | cleanup | other => exact absurd admits id
        · rintro ⟨groupNo, members, latest, member, different⟩
          exact ⟨commit groupNo members, latest, member, unnamed, different⟩
  · intro uid
    rw [Caches.groups_findSharedGroups]
    split
    · exact List.Pairwise.nil
    · have sorted := Finset.pairwise_sort (caches.userGroupIndex.members uid) TextLE
      have distinct := Finset.sort_nodup (caches.userGroupIndex.members uid) TextLE
      exact (sorted.and distinct).imp fun both => lt_of_le_of_ne both.1 both.2
  · exact fun uid groups found => (occupied uid groups found).ne_empty

/-- A commit for the empty group id is left out. -/
theorem sharedGroups_blank :
    let runtime := machine (fun _ _ => ()) (py "bot") () .empty
    let events := [commit [] [⟨py "u1", py "Ann", .bool false⟩]]
    ¬ ([] ∈ ((runtime.run events).findSharedGroups (py "u1")).map SharedGroup.groupNo ↔
      ∃ groupNo members,
        runtime.Latest (fun caches event => event.Touches [] caches) events
          (commit groupNo members) ∧
        py "u1" ∈ members.map GroupMember.uid ∧ py "u1" ≠ py "bot") := by
  intro runtime events agrees
  have listed := agrees.mpr ⟨[], [⟨py "u1", py "Ann", .bool false⟩],
    ⟨[], [], rfl, rfl, by intro done next later split; cases done <;> cases split⟩,
    by decide, by decide⟩
  exact absurd listed List.not_mem_nil

end IndexEvent
end OctoChannel.Chats

import OctoChannel.Chats.Scheduling

/-! The group prefetch against what came in while its request was under way: which facts
of a channel the older answer erases, and that it brings no evicted group back. -/

namespace OctoChannel.Chats

open Foundation Identity Caches

variable {Names : Type} {runtime : Runtime Names}

/-- What a key holds of a conversation: its history, and its GROUP.md or THREAD.md with the
mark that it was looked for. -/
structure Contents where
  history : Option (List HistoryEntry)
  md : Option MdEntry
  checked : Bool
  deriving DecidableEq

/-- The contents of a key and the kind of its chat. -/
structure Facts extends Contents where
  kind : Option ChannelType
  deriving DecidableEq

def Facts.nothing : Facts := ⟨⟨none, none, false⟩, none⟩

namespace Caches

variable (caches : Caches Names) (key : PyStr)

def facts : Facts where
  kind := caches.chatKind.get? key
  history := caches.groupHistories.get? key
  md := caches.groupMdCache.get? key
  checked := key ∈ caches.groupMdChecked

variable {caches} {key}

private theorem scopedKey_of_out {groupNo : PyStr} (out : inScope groupNo key = false) :
    caches.scopedKey groupNo key = false := by
  unfold scopedKey
  rw [out, Bool.false_and, Bool.or_false]
  unfold inScope at out
  exact (Bool.or_eq_false_iff.mp out).1

/-- A key in scope that is no scoped key holds nothing. -/
private theorem facts_of_unscoped {groupNo : PyStr} (inside : inScope groupNo key = true)
    (unscoped : caches.scopedKey groupNo key = false) : caches.facts key = .nothing := by
  unfold scopedKey at unscoped
  rw [inside, Bool.true_and] at unscoped
  simp only [Bool.or_eq_false_iff, decide_eq_false_iff_not, Option.isSome_eq_false_iff,
    Option.isNone_iff_eq_none] at unscoped
  obtain ⟨_, ⟨⟨⟨history, md⟩, kind⟩, _⟩, checked⟩ := unscoped
  unfold facts
  rw [history, md, kind, decide_eq_false checked]
  rfl

/-- An eviction takes all facts of its scope. -/
private theorem facts_evictGroupScope (groupNo : PyStr) (refused : PyStr → Bool) :
    (caches.evictGroupScope groupNo refused).facts key =
      if inScope groupNo key then .nothing else caches.facts key := by
  let left := (caches.invalidateGroupScope groupNo).evictGroupMembershipCache groupNo
  let kept := fun key => !left.scopedKey groupNo key
  have after : (caches.evictGroupScope groupNo refused).facts key =
      ⟨⟨(left.groupHistories.filterKeys kept).get? key, (left.groupMdCache.filterKeys kept).get? key,
        key ∈ left.groupMdChecked.filter fun key => kept key⟩,
        (left.chatKind.filterKeys kept).get? key⟩ := rfl
  rw [after, Dict.get?_filterKeys, Dict.get?_filterKeys, Dict.get?_filterKeys]
  cases found : left.scopedKey groupNo key with
  | true =>
    have inside : inScope groupNo key = true := by
      by_contra out
      rw [scopedKey_of_out (Bool.eq_false_iff.mpr out)] at found
      cases found
    simp [kept, found, inside, Facts.nothing]
  | false =>
    cases inside : inScope groupNo key with
    | false =>
      simp only [kept, found, Finset.mem_filter, Bool.not_false, and_true, if_true]
      rfl
    | true =>
      have none := facts_of_unscoped inside found
      simp only [kept, found, Finset.mem_filter, Bool.not_false, and_true, if_true]
      exact none

theorem facts_evictions (groups : List PyStr) (refused : PyStr → Bool) (caches : Caches Names) :
    (groups.foldl (fun caches groupNo => caches.evictGroupScope groupNo refused) caches).facts
        key = if groups.any (inScope · key) then .nothing else caches.facts key := by
  induction groups generalizing caches with
  | nil => rfl
  | cons groupNo rest ih =>
    rw [List.foldl_cons, ih, facts_evictGroupScope, List.any_cons]
    cases inScope groupNo key <;> cases rest.any (inScope · key) <;> rfl

private theorem mem_known_evictions {group : PyStr} (groups : List PyStr) (refused : PyStr → Bool)
    (caches : Caches Names) :
    group ∈ (groups.foldl (fun caches groupNo => caches.evictGroupScope groupNo refused)
        caches).knownGroupIds ↔ group ∈ caches.knownGroupIds ∧ group ∉ groups := by
  induction groups generalizing caches with
  | nil => simp
  | cons groupNo rest ih =>
    have evicted : (caches.evictGroupScope groupNo refused).knownGroupIds =
        caches.knownGroupIds.filter (· ≠ groupNo) := rfl
    rw [List.foldl_cons, ih, evicted, List.mem_filter, decide_eq_true_iff, List.mem_cons,
      not_or, and_assoc]

private theorem generation_evictions_of_not_mem {group : PyStr} (groups : List PyStr)
    (other : group ∉ groups) (refused : PyStr → Bool) (caches : Caches Names) :
    (groups.foldl (fun caches groupNo => caches.evictGroupScope groupNo refused)
      caches).groupScopeGeneration group = caches.groupScopeGeneration group := by
  induction groups generalizing caches with
  | nil => rfl
  | cons groupNo rest ih =>
    have apart := List.ne_of_not_mem_cons other
    rw [List.foldl_cons, ih (List.not_mem_of_not_mem_cons other), generation_evictGroupScope,
      if_neg (Ne.symm apart)]

/-- The answer lists the group, whose generation is still that of the request. -/
def Indexes (caches : Caches Names) (snapshot : Dict PyStr Nat) (listed : List GroupInfo)
    (group : PyStr) : Prop :=
  group ∈ listed.map GroupInfo.groupNo ∧
    caches.groupScopeGeneration group = (snapshot.get? group).getD 0

instance (snapshot : Dict PyStr Nat) (listed : List GroupInfo) (group : PyStr) :
    Decidable (caches.Indexes snapshot listed group) :=
  inferInstanceAs (Decidable (_ ∧ _))

theorem indexes_cons (snapshot : Dict PyStr Nat) (group : GroupInfo) (rest : List GroupInfo)
    (other : PyStr) : caches.Indexes snapshot (group :: rest) other ↔
      (group.groupNo = other ∧
        caches.groupScopeGeneration other = (snapshot.get? other).getD 0) ∨
      caches.Indexes snapshot rest other := by
  unfold Indexes
  rw [List.map_cons, List.mem_cons, or_and_right, eq_comm]

theorem indexes_congr {after : Caches Names} {snapshot : Dict PyStr Nat} {listed : List GroupInfo}
    {group : PyStr} (same : after.groupScopeGeneration group = caches.groupScopeGeneration group) :
    after.Indexes snapshot listed group ↔ caches.Indexes snapshot listed group := by
  unfold Indexes
  rw [same]

private theorem facts_indexGroup (snapshot : Dict PyStr Nat) (now : Int) (group : GroupInfo)
    (caches : Caches Names) :
    (caches.indexGroup snapshot now group).facts key =
      if group.groupNo = key ∧
          caches.groupScopeGeneration key = (snapshot.get? key).getD 0 then
        { caches.facts key with kind := some .Group }
      else caches.facts key := by
  unfold indexGroup facts
  by_cases current : caches.groupScopeGeneration group.groupNo =
      (snapshot.get? group.groupNo).getD 0
  · rw [if_neg (not_not.mpr current)]
    have kinds := Dict.get?_set caches.chatKind group.groupNo key .Group
    by_cases own : group.groupNo = key
    · subst own
      rw [if_pos ⟨rfl, current⟩]
      rw [if_pos rfl] at kinds
      unfold touchCache
      split <;> exact congrArg (Facts.mk _) kinds
    · rw [if_neg fun both => own both.1]
      rw [if_neg own] at kinds
      unfold touchCache
      split <;> exact congrArg (Facts.mk _) kinds
  · rw [if_pos current]
    by_cases own : group.groupNo = key
    · subst own
      rw [if_neg fun both => current both.2]
    · rw [if_neg fun both => own both.1]

private theorem mem_known_indexGroup (snapshot : Dict PyStr Nat) (now : Int) (group : GroupInfo)
    (caches : Caches Names) (other : PyStr) :
    other ∈ (caches.indexGroup snapshot now group).knownGroupIds ↔
      other ∈ caches.knownGroupIds ∨ group.groupNo = other ∧
        caches.groupScopeGeneration other = (snapshot.get? other).getD 0 := by
  unfold indexGroup
  by_cases current : caches.groupScopeGeneration group.groupNo =
      (snapshot.get? group.groupNo).getD 0
  · rw [if_neg (not_not.mpr current)]
    have inserted : other ∈ caches.knownGroupIds.insert group.groupNo ↔
        other ∈ caches.knownGroupIds ∨ group.groupNo = other ∧
          caches.groupScopeGeneration other = (snapshot.get? other).getD 0 := by
      rw [List.mem_insert_iff]
      constructor
      · rintro (rfl | known)
        · exact .inr ⟨rfl, current⟩
        · exact .inl known
      · rintro (known | ⟨rfl, _⟩)
        · exact .inr known
        · exact .inl rfl
    unfold touchCache
    split <;> exact inserted
  · rw [if_pos current]
    constructor
    · exact .inl
    · rintro (known | ⟨rfl, same⟩)
      · exact known
      · exact absurd same current

theorem facts_indexGroups (snapshot : Dict PyStr Nat) (now : Int) (listed : List GroupInfo)
    (caches : Caches Names) :
    (listed.foldl (fun caches group => caches.indexGroup snapshot now group) caches).facts key =
      if caches.Indexes snapshot listed key then { caches.facts key with kind := some .Group }
      else caches.facts key := by
  induction listed generalizing caches with
  | nil => exact (if_neg fun indexes => List.not_mem_nil indexes.1).symm
  | cons group rest ih =>
    have same := groupScopeGeneration_congr
      (sameScopes_indexGroup caches snapshot now group).generations key
    rw [List.foldl_cons, ih, facts_indexGroup]
    simp only [indexes_congr same, indexes_cons]
    split <;> split <;> simp_all

private theorem mem_known_indexGroups (snapshot : Dict PyStr Nat) (now : Int)
    (listed : List GroupInfo)
    (caches : Caches Names) (other : PyStr) :
    other ∈ (listed.foldl (fun caches group => caches.indexGroup snapshot now group)
        caches).knownGroupIds ↔
      other ∈ caches.knownGroupIds ∨ caches.Indexes snapshot listed other := by
  induction listed generalizing caches with
  | nil => exact (or_iff_left fun indexes => List.not_mem_nil indexes.1).symm
  | cons group rest ih =>
    have same := groupScopeGeneration_congr
      (sameScopes_indexGroup caches snapshot now group).generations other
    rw [List.foldl_cons, ih, mem_known_indexGroup, indexes_congr same, indexes_cons, or_assoc]

variable (caches : Caches Names) (snapshot : Dict PyStr Nat) (listed : List GroupInfo)

private theorem not_stale_of_indexes {listed : List GroupInfo} {snapshot : Dict PyStr Nat}
    {group : PyStr}
    (indexes : caches.Indexes snapshot listed group) : group ∉ caches.staleGroups listed := by
  intro stale
  exact of_decide_eq_true (List.mem_filter.mp stale).2 indexes.1

/-- The evictions of an answer do not change which groups it indexes. -/
theorem indexes_evictions (refused : PyStr → Bool) (group : PyStr) :
    ((caches.staleGroups listed).foldl (fun caches groupNo => caches.evictGroupScope groupNo refused)
      caches).Indexes snapshot listed group ↔ caches.Indexes snapshot listed group := by
  by_cases stale : group ∈ caches.staleGroups listed
  · have unlisted : group ∉ listed.map GroupInfo.groupNo :=
      of_decide_eq_true (List.mem_filter.mp stale).2
    exact ⟨fun indexes => absurd indexes.1 unlisted, fun indexes => absurd indexes.1 unlisted⟩
  · exact indexes_congr (generation_evictions_of_not_mem _ stale refused caches)

variable {listed} (key) (wellFormed : ¬ (listed.any fun group => group.groupNo = []))
include wellFormed

private theorem kind_prefetchEnds (now : Int) (refused : PyStr → Bool) :
    ((caches.prefetchEnds snapshot (.groups listed) now refused).facts key).kind =
      if caches.Indexes snapshot listed key then some .Group
      else if (caches.staleGroups listed).any (inScope · key) then none
      else (caches.facts key).kind := by
  unfold Caches.prefetchEnds
  dsimp only
  rw [if_neg wellFormed, facts_indexGroups, facts_evictions]
  simp only [indexes_evictions]
  split
  · rfl
  · split <;> rfl

theorem contents_prefetchEnds (now : Int) (refused : PyStr → Bool) :
    ((caches.prefetchEnds snapshot (.groups listed) now refused).facts key).toContents =
      if (caches.staleGroups listed).any (inScope · key) then Facts.nothing.toContents
      else (caches.facts key).toContents := by
  unfold Caches.prefetchEnds
  dsimp only
  rw [if_neg wellFormed, facts_indexGroups, facts_evictions]
  split <;> split <;> rfl

theorem mem_known_prefetchEnds (now : Int) (refused : PyStr → Bool) (group : PyStr) :
    group ∈ (caches.prefetchEnds snapshot (.groups listed) now refused).knownGroupIds ↔
      group ∈ caches.knownGroupIds ∧ group ∉ caches.staleGroups listed ∨
        caches.Indexes snapshot listed group := by
  unfold Caches.prefetchEnds
  dsimp only
  rw [if_neg wellFormed, mem_known_indexGroups, mem_known_evictions, indexes_evictions]

end Caches

/-- The facts recorded for a channel before are still there: its parent group is known, its
kind and so the type of a reply, and the histories and texts of the channel and its group. -/
structure Undamaged (after before : Caches Names) (channelId : PyStr) : Prop where
  known : parentGroupNo channelId ∈ before.knownGroupIds →
    parentGroupNo channelId ∈ after.knownGroupIds
  kind : ∀ kind, (before.facts channelId).kind = some kind →
    (after.facts channelId).kind = some kind
  reply : ∀ kind, (before.facts channelId).kind = some kind →
    after.resolveChannelType channelId none = kind
  contents : (after.facts channelId).toContents = (before.facts channelId).toContents
  groupContents : (after.facts (parentGroupNo channelId)).toContents =
    (before.facts (parentGroupNo channelId)).toContents

theorem Undamaged.refl (caches : Caches Names) (channelId : PyStr) :
    Undamaged caches caches channelId where
  known := id
  kind _ recorded := recorded
  reply kind recorded := by
    rw [resolveChannelType]
    exact congrArg (Option.getD · _) recorded
  contents := rfl
  groupContents := rfl

/-- The answer lists the parent group when it is known, its evictions meet no content of the
channel, and what it says of the kind of the channel is what was recorded. -/
structure Spared (caches : Caches Names) (snapshot : Dict PyStr Nat) (listed : List GroupInfo)
    (channelId : PyStr) : Prop where
  parent : parentGroupNo channelId ∉ caches.staleGroups listed
  contents : (caches.staleGroups listed).any (inScope · channelId) →
    (caches.facts channelId).toContents = Facts.nothing.toContents
  kind : ∀ kind, (caches.facts channelId).kind = some kind →
    if caches.Indexes snapshot listed channelId then kind = .Group
    else ¬ (caches.staleGroups listed).any (inScope · channelId)

section

variable {caches : Caches Names} {snapshot : Dict PyStr Nat} {listed : List GroupInfo}
  {channelId : PyStr}

private theorem stale_scope_parent :
    (caches.staleGroups listed).any (inScope · (parentGroupNo channelId)) ↔
      parentGroupNo channelId ∈ caches.staleGroups listed := by
  rw [List.any_eq_true]
  constructor
  · rintro ⟨groupNo, stale, inside⟩
    exact inScope_parent inside ▸ stale
  · intro stale
    refine ⟨_, stale, ?_⟩
    have inside := inScope_parentGroupNo (parentGroupNo channelId)
    rwa [parentGroupNo_idem] at inside

private theorem stale_known (stale : parentGroupNo channelId ∈ caches.staleGroups listed) :
    parentGroupNo channelId ∈ caches.knownGroupIds := (List.mem_filter.mp stale).1

/-- An answer damages nothing that was recorded for a channel exactly when it spares it. -/
theorem undamaged_prefetchEnds_iff (wellFormed : ¬ (listed.any fun group => group.groupNo = []))
    (now : Int) (refused : PyStr → Bool) :
    Undamaged (caches.prefetchEnds snapshot (.groups listed) now refused) caches channelId ↔
      Spared caches snapshot listed channelId := by
  have kinds := kind_prefetchEnds channelId caches snapshot wellFormed now refused
  have contents := contents_prefetchEnds channelId caches snapshot wellFormed now refused
  have group := contents_prefetchEnds (parentGroupNo channelId) caches snapshot wellFormed now refused
  have known := mem_known_prefetchEnds caches snapshot wellFormed now refused
    (parentGroupNo channelId)
  constructor
  · intro undamaged
    refine ⟨?_, ?_, ?_⟩
    · intro stale
      rcases known.mp (undamaged.known (stale_known stale)) with kept | indexes
      · exact kept.2 stale
      · exact not_stale_of_indexes caches indexes stale
    · intro evicted
      rw [← undamaged.contents, contents, if_pos evicted]
    · intro kind recorded
      have kept := undamaged.kind kind recorded
      rw [kinds] at kept
      split
      · rename_i indexes
        rw [if_pos indexes] at kept
        exact (Option.some.inj kept).symm
      · rename_i unindexed
        intro evicted
        rw [if_neg unindexed, if_pos evicted] at kept
        cases kept
  · intro spared
    have kept : ∀ kind, (caches.facts channelId).kind = some kind →
        ((caches.prefetchEnds snapshot (.groups listed) now refused).facts channelId).kind =
          some kind := by
      intro kind recorded
      have same := spared.kind kind recorded
      rw [kinds]
      split
      · rename_i indexes
        rw [if_pos indexes] at same
        rw [same]
      · rename_i unindexed
        rw [if_neg unindexed] at same
        rw [if_neg same]
        exact recorded
    refine ⟨?_, kept, ?_, ?_, ?_⟩
    · exact fun before => known.mpr (.inl ⟨before, spared.parent⟩)
    · exact fun kind recorded => congrArg (Option.getD · _) (kept kind recorded)
    · rw [contents]
      split
      · rename_i evicted
        exact (spared.contents evicted).symm
      · rfl
    · rw [group, if_neg fun evicted => spared.parent (stale_scope_parent.mp evicted)]

end

namespace System

/-- A group frame of somebody else was recorded for the channel. -/
def Recorded (runtime : Runtime Names) (events : List Event) (channelId : PyStr) : Prop :=
  ∃ frame now, .frameArrives frame now ∈ events ∧ frame.fromUid ≠ runtime.settings.robotId ∧
    (groupType? frame.channelType).isSome ∧ frame.channelId = channelId

/-- The group was marked in the run, by an eviction or an event. -/
def MarkedIn (runtime : Runtime Names) (requested : System Names) (events : List Event)
    (group : PyStr) : Prop :=
  ∃ done event later, events = done ++ event :: later ∧
    (requested.run runtime done).Marks event group

/-- What was recorded since the request is there behind the answer, and no group that was
marked since is brought back. -/
def KeepsNewer (runtime : Runtime Names) (requested : System Names) (events : List Event)
    (ending : Event) : Prop :=
  let waiting := requested.run runtime events
  let ended := waiting.step runtime ending
  (∀ channelId, Recorded runtime events channelId →
      Undamaged ended.caches waiting.caches channelId) ∧
    ∀ group, MarkedIn runtime requested events group → group ∈ ended.caches.knownGroupIds →
      group ∈ waiting.caches.knownGroupIds

/-- The answer, when it is read at all, spares every channel recorded since the request. -/
def SparesNewer (runtime : Runtime Names) (requested : System Names) (events : List Event)
    (id : Nat) (answer : GroupsAnswer) : Prop :=
  let waiting := requested.run runtime events
  ∀ channelId, Recorded runtime events channelId → ∀ snapshot listed,
    waiting.task? id = some (.prefetch snapshot) → answer = .groups listed →
    ¬ (listed.any fun group => group.groupNo = []) →
    Spared waiting.caches snapshot listed channelId

variable {system : System Names}

/-- Under the id of a prefetch only that prefetch waits. -/
structure Prefetching (system : System Names) (id : Nat) (snapshot : Dict PyStr Nat) : Prop where
  sound : system.Sound
  issued : id < system.nextId
  only : ∀ task, (id, task) ∈ system.tasks → task = .prefetch snapshot

theorem Prefetching.run {id : Nat} {snapshot : Dict PyStr Nat}
    (prefetching : system.Prefetching id snapshot) (runtime : Runtime Names)
    (events : List Event) : (system.run runtime events).Prefetching id snapshot := by
  induction events generalizing system with
  | nil => exact prefetching
  | cons event rest ih =>
    apply ih
    refine ⟨prefetching.sound.step event,
      Nat.lt_of_lt_of_le prefetching.issued (nextId_step prefetching.sound event), ?_⟩
    intro task waits
    rcases mem_step_tasks prefetching.sound event waits with old | ⟨fresh, _⟩
    · exact prefetching.only task old
    · exact absurd fresh (Nat.ne_of_lt prefetching.issued)

theorem Sound.prefetching (sound : system.Sound) (runtime : Runtime Names) :
    (system.step runtime (.prefetchStarts true)).Prefetching system.nextId
      system.caches.groupScopeGenerations where
  sound := sound.step (.prefetchStarts true)
  issued := Nat.lt_succ_self system.nextId
  only task waits := by
    rcases mem_spawn.mp waits with fresh | old
    · cases fresh
      rfl
    · exact absurd (sound.issued system.nextId task old) (Nat.lt_irrefl _)

/-- The generation of a marked group has left that of the request behind. -/
theorem MarkedIn.moved {events : List Event} {group : PyStr}
    (marked : MarkedIn runtime system events group) :
    system.caches.groupScopeGeneration group <
      (system.run runtime events).caches.groupScopeGeneration group := by
  obtain ⟨done, event, later, split, marks⟩ := marked
  have first := generation_run system runtime done group
  have moved := (@generation_step _ runtime _ event group).2 marks
  have last := generation_run ((system.run runtime done).step runtime event) runtime later group
  have whole : system.run runtime events =
      ((system.run runtime done).step runtime event).run runtime later := by
    rw [split, System.run, List.foldl_append]
    rfl
  rw [whole]
  omega

private theorem caches_prefetchEnds {id : Nat} {snapshot : Dict PyStr Nat}
    (found : system.task? id = some (.prefetch snapshot)) (answer : GroupsAnswer) (now : Int)
    (refused : PyStr → Bool) :
    (system.step runtime (.prefetchEnds id answer now refused)).caches =
      system.caches.prefetchEnds snapshot answer now refused := by
  unfold step
  dsimp only
  rw [found]
  rfl

/-- Where the caches stay as they are, everything is kept. -/
theorem keepsNewer_of_same {events : List Event} {ending : Event}
    (same : ((system.run runtime events).step runtime ending).caches =
      (system.run runtime events).caches) : KeepsNewer runtime system events ending := by
  unfold KeepsNewer
  dsimp only
  rw [same]
  exact ⟨fun channelId _ => .refl _ channelId, fun _ _ known => known⟩

/-- The answer to a prefetch keeps what came in since its request exactly when it spares
it; marked groups are never brought back. -/
theorem prefetchEnds_keepsNewer_iff (runtime : Runtime Names) (names : Names)
    (mdFiles : Dict PyStr MdEntry) (before events : List Event) (answer : GroupsAnswer) (now : Int)
    (refused : PyStr → Bool) :
    let reached := (start names mdFiles).run runtime before
    let requested := reached.step runtime (.prefetchStarts true)
    KeepsNewer runtime requested events (.prefetchEnds reached.nextId answer now refused) ↔
      SparesNewer runtime requested events reached.nextId answer := by
  intro reached requested
  have sound : reached.Sound := (Sound.start names mdFiles).run runtime before
  have prefetching := (sound.prefetching runtime).run runtime events
  cases found : (requested.run runtime events).task? reached.nextId with
  | none =>
    constructor
    · intro _ channelId _ snapshot listed waits
      rw [found] at waits
      cases waits
    · intro _
      apply keepsNewer_of_same
      unfold step
      dsimp only
      rw [found]
  | some task =>
    have own := prefetching.only task (mem_of_task? found)
    subst own
    have applied := @caches_prefetchEnds _ runtime _ _ _ found answer now refused
    cases answer with
    | failed =>
      constructor
      · intro _ channelId _ snapshot listed _ answered
        cases answered
      · exact fun _ => keepsNewer_of_same applied
    | groups listed =>
      by_cases malformed : listed.any fun group => group.groupNo = []
      · constructor
        · intro _ channelId _ snapshot other _ answered wellFormed
          cases answered
          exact absurd malformed wellFormed
        · intro _
          apply keepsNewer_of_same
          rw [applied]
          exact if_pos malformed
      · unfold KeepsNewer SparesNewer
        dsimp only
        rw [applied]
        constructor
        · intro keeps channelId recorded snapshot other waits answered wellFormed
          rw [found] at waits
          cases waits
          cases answered
          exact (undamaged_prefetchEnds_iff wellFormed now refused).mp (keeps.1 channelId recorded)
        · intro spares
          constructor
          · intro channelId recorded
            exact (undamaged_prefetchEnds_iff malformed now refused).mpr
              (spares channelId recorded _ listed found rfl malformed)
          · intro group marked known
            rcases (mem_known_prefetchEnds _ _ malformed now refused group).mp known with
              kept | indexes
            · exact kept.1
            · exact absurd indexes.2 (Nat.ne_of_gt marked.moved)

/-- A group whose number could be a uid. -/
def hexGroup : PyStr := List.replicate 32 (ch 'a')

/-- The bot is added to a group while a prefetch is under way, and the group writes. -/
def newGroupFrame : Event := .frameArrives ⟨py "u", hexGroup, 2, none, false, py "hi"⟩ 5

/-- The answer of the older request forgets the group, and a reply to it goes to a user. -/
theorem newGroup_not_kept :
    let reached := start () .empty
    let requested := reached.step soleRuntime (.prefetchStarts true)
    let waiting := requested.run soleRuntime [newGroupFrame]
    let ending := Event.prefetchEnds reached.nextId (.groups []) 6 fun _ => false
    ¬ KeepsNewer soleRuntime requested [newGroupFrame] ending ∧
      waiting.caches.resolveChannelType hexGroup none = .Group ∧
      (waiting.step soleRuntime ending).caches.resolveChannelType hexGroup none = .DM := by
  intro reached requested waiting ending
  refine ⟨?_, by decide, by decide⟩
  intro keeps
  have recorded : Recorded soleRuntime [newGroupFrame] hexGroup :=
    ⟨_, 5, List.mem_cons_self .., by decide, rfl, rfl⟩
  have undamaged := keeps.1 hexGroup recorded
  have kept := undamaged.kind .Group (by decide)
  revert kept
  decide

end System

end OctoChannel.Chats

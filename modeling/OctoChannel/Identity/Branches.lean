import OctoChannel.Identity.Snapshot

namespace OctoChannel.Identity

open Foundation

namespace Registry

variable {registry : Registry}

/-- The exits of `bind` with the guards under which each is taken. -/
inductive BindCase (registry : Registry) (request : Request) : BindResult → Registry → Prop where
  | refused (conflicted : (∃ key ∈ request.sessionKey, key ∈ registry.sessionConflicts) ∨
        request.target ∈ registry.targetConflicts) :
      BindCase registry request .conflict registry
  | contestedSession {key : SessionKey} {owner : RobotId} (named : request.sessionKey = some key)
      (routed : registry.sessionRoutes.get? key = some owner) (other : owner ≠ request.robotId)
      (open' : request.target ∉ registry.targetConflicts) :
      BindCase registry request .conflict
        ((if ownedByOther (registry.targetRoutes.get? request.target) request.robotId then
          registry.contestTarget request.target else registry).contestSession (some key))
  | contestedTarget {owner : RobotId} (routed : registry.targetRoutes.get? request.target = some owner)
      (other : owner ≠ request.robotId ∨
        wireDiffers (registry.targetWireIds.get? request.target) request.wireTarget = true)
      (open' : request.target ∉ registry.targetConflicts) :
      BindCase registry request .conflict (registry.contestTarget request.target)
  | filled {wire : WireChatId} (routed : registry.targetRoutes.get? request.target = some request.robotId)
      (known : ∀ key ∈ request.sessionKey, registry.sessionRoutes.get? key = some request.robotId)
      (open' : request.target ∉ registry.targetConflicts)
      (calm : ∀ key ∈ request.sessionKey, key ∉ registry.sessionConflicts)
      (offered : request.wireTarget = some wire)
      (unknown : registry.targetWireIds.get? request.target = none) :
      BindCase registry request .bound (registry.fillWire request.target request.channelType wire)
  | idempotent (routed : registry.targetRoutes.get? request.target = some request.robotId)
      (known : ∀ key ∈ request.sessionKey, registry.sessionRoutes.get? key = some request.robotId)
      (open' : request.target ∉ registry.targetConflicts)
      (calm : ∀ key ∈ request.sessionKey, key ∉ registry.sessionConflicts)
      (settled : request.wireTarget.isSome → (registry.targetWireIds.get? request.target).isSome) :
      BindCase registry request .idempotent registry
  | full (unrouted : registry.targetRoutes.get? request.target = none)
      (exhausted : maxPersistedRoutes ≤ registry.targetRoutes.size) :
      BindCase registry request .capacity registry
  | claimed (open' : request.target ∉ registry.targetConflicts)
      (calm : ∀ key ∈ request.sessionKey, key ∉ registry.sessionConflicts)
      (free : ∀ key ∈ request.sessionKey, registry.sessionRoutes.get? key = none ∨
        registry.sessionRoutes.get? key = some request.robotId)
      (target : (registry.targetRoutes.get? request.target = none ∧
          registry.targetRoutes.size < maxPersistedRoutes) ∨
        (registry.targetRoutes.get? request.target = some request.robotId ∧
          ∃ key, request.sessionKey = some key ∧ registry.sessionRoutes.get? key = none)) :
      BindCase registry request .bound (registry.claim request)

theorem ownedByOther_eq_false {owner : Option RobotId} {robotId : RobotId} :
    ownedByOther owner robotId = false ↔ owner = none ∨ owner = some robotId := by
  cases owner <;> simp [ownedByOther]

theorem ownedByOther_eq_true {owner : Option RobotId} {robotId : RobotId} :
    ownedByOther owner robotId = true ↔ ∃ other, owner = some other ∧ other ≠ robotId := by
  cases owner <;> simp [ownedByOther]

private theorem calm_of_any {conflicts : Finset SessionKey} {sessionKey : Option SessionKey}
    (miss : ¬ (sessionKey.any (· ∈ conflicts)) = true) : ∀ key ∈ sessionKey, key ∉ conflicts := by
  intro key named
  rw [Option.mem_def.mp named] at miss
  simpa using miss

private theorem free_of_ownedByOther {request : Request}
    (own : ¬ ownedByOther (request.sessionKey.bind registry.sessionRoutes.get?) request.robotId = true) :
    ∀ key ∈ request.sessionKey, registry.sessionRoutes.get? key = none ∨
      registry.sessionRoutes.get? key = some request.robotId := by
  intro key named
  rw [Option.mem_def.mp named, Option.bind_some, Bool.not_eq_true] at own
  exact ownedByOther_eq_false.mp own

/-- Every `bind` takes one of the listed exits. -/
theorem bindLocked_case (registry : Registry) (request : Request) :
    BindCase registry request (registry.bindLocked request).1 (registry.bindLocked request).2 := by
  unfold bindLocked
  simp only
  split_ifs with sessionHit targetHit sessionOther both targetOther wires established exhausted
  · obtain ⟨key, named, hit⟩ := (Option.any_eq_true _ _).mp sessionHit
    exact .refused (.inl ⟨key, named, by simpa using hit⟩)
  · exact .refused (.inr targetHit)
  · obtain ⟨owner, found, other⟩ := ownedByOther_eq_true.mp sessionOther
    obtain ⟨key, named, routed⟩ := Option.bind_eq_some_iff.mp found
    have exit := BindCase.contestedSession named routed other targetHit
    rw [if_pos both] at exit
    rwa [named]
  · obtain ⟨owner, found, other⟩ := ownedByOther_eq_true.mp sessionOther
    obtain ⟨key, named, routed⟩ := Option.bind_eq_some_iff.mp found
    have exit := BindCase.contestedSession named routed other targetHit
    rw [if_neg both] at exit
    rwa [named]
  · obtain ⟨owner, routed, other⟩ := ownedByOther_eq_true.mp targetOther
    exact .contestedTarget routed (.inl other) targetHit
  · simp only [Bool.and_eq_true] at wires
    obtain ⟨owner, routed⟩ := Option.isSome_iff_exists.mp wires.1
    exact .contestedTarget routed (.inr wires.2) targetHit
  · simp only [Bool.and_eq_true, Bool.or_eq_true] at established
    have calm := calm_of_any sessionHit
    have routed : registry.targetRoutes.get? request.target = some request.robotId := by
      rw [Bool.not_eq_true] at targetOther
      rcases ownedByOther_eq_false.mp targetOther with none | own
      · simp [none] at established
      · exact own
    have known : ∀ key ∈ request.sessionKey,
        registry.sessionRoutes.get? key = some request.robotId := by
      intro key named
      rcases free_of_ownedByOther sessionOther key named with none | own
      · simp [Option.mem_def.mp named, none] at established
      · exact own
    split
    · rename_i wire offered unknown
      exact .filled routed known targetHit calm offered unknown
    · rename_i elsewhere
      refine .idempotent routed known targetHit calm fun offered => ?_
      obtain ⟨wire, given⟩ := Option.isSome_iff_exists.mp offered
      by_contra unknown
      exact elsewhere wire given (Option.not_isSome_iff_eq_none.mp unknown)
  · simp only [Bool.and_eq_true, Option.isNone_iff_eq_none, decide_eq_true_eq] at exhausted
    exact .full exhausted.1 exhausted.2
  · refine .claimed targetHit (calm_of_any sessionHit) (free_of_ownedByOther sessionOther) ?_
    rw [Bool.not_eq_true] at targetOther
    rcases ownedByOther_eq_false.mp targetOther with none | own
    · simp only [none, Option.isNone_none, Bool.true_and, decide_eq_true_eq, not_le] at exhausted
      exact .inl ⟨none, exhausted⟩
    · simp only [own, Option.isSome_some, Bool.true_and, Bool.or_eq_true, not_or,
        Option.isNone_iff_eq_none, Option.not_isSome_iff_eq_none] at established
      obtain ⟨key, named⟩ := Option.ne_none_iff_exists'.mp established.1
      rw [named, Option.bind_some] at established
      exact .inr ⟨own, key, named, established.2⟩

/-- The guards that end a `bind` without a route: a conflict mark, another owner,
another wire id, or no room for a new target. -/
def refuses (registry : Registry) (request : Request) : Bool :=
  request.sessionKey.any (· ∈ registry.sessionConflicts) ||
    request.target ∈ registry.targetConflicts ||
    ownedByOther (request.sessionKey.bind registry.sessionRoutes.get?) request.robotId ||
    ownedByOther (registry.targetRoutes.get? request.target) request.robotId ||
    ((registry.targetRoutes.get? request.target).isSome &&
      wireDiffers (registry.targetWireIds.get? request.target) request.wireTarget) ||
    ((registry.targetRoutes.get? request.target).isNone &&
      decide (maxPersistedRoutes ≤ registry.targetRoutes.size))

theorem accepted_bindLocked (registry : Registry) (request : Request) :
    (registry.bindLocked request).1.accepted = !registry.refuses request := by
  unfold bindLocked refuses
  dsimp only
  split_ifs with sessionHit targetHit sessionOther both targetOther wires established exhausted
  · simp [sessionHit, BindResult.accepted]
  · simp [targetHit, BindResult.accepted]
  · simp [sessionOther, BindResult.accepted]
  · simp [sessionOther, BindResult.accepted]
  · simp [targetOther, BindResult.accepted]
  · simp [wires, BindResult.accepted]
  · rw [Bool.not_eq_true] at sessionHit sessionOther targetOther wires
    rw [Bool.and_eq_true] at established
    have present := Option.isNone_eq_false_iff.mpr established.1
    rw [sessionHit, sessionOther, targetOther, wires, present, decide_eq_false targetHit]
    split <;> rfl
  · simp [exhausted, BindResult.accepted]
  · rw [Bool.not_eq_true] at sessionHit sessionOther targetOther wires exhausted
    rw [sessionHit, sessionOther, targetOther, wires, exhausted, decide_eq_false targetHit]
    rfl

theorem mem_listings_iff {key : SessionKey} {target : TargetKey} :
    target ∈ registry.listings key ↔ key ∈ registry.linked target :=
  Links.mem_listings_iff

@[simp] theorem linked_contestTarget (target other : TargetKey) :
    (registry.contestTarget target).linked other = registry.linked other := rfl

@[simp] theorem linked_contestSession (key : Option SessionKey) (other : TargetKey) :
    (registry.contestSession key).linked other = registry.linked other := rfl

theorem linked_linkSession (key : SessionKey) (target other : TargetKey) (robotId : RobotId) :
    (registry.linkSession key target robotId).linked other =
      if target = other then insert key (registry.linked target) else registry.linked other :=
  Links.members_link _ _ _

theorem holders_openTarget (target : TargetKey) (robotId : RobotId) (chatId : ChatId) :
    (registry.openTarget target robotId).holders chatId =
      if target.2 = chatId then insert (target.1, robotId) (registry.holders target.2)
      else registry.holders chatId :=
  Links.members_link _ _ _

private theorem evictOldestSession_of_keys {victim : SessionKey} {rest : List SessionKey}
    (shape : registry.sessionRoutes.keys = victim :: rest) :
    registry.evictOldestSession = registry.dropSession victim := by
  simp only [evictOldestSession, shape]

theorem linked_dropSession (victim : SessionKey) (target : TargetKey) :
    (registry.dropSession victim).linked target = (registry.linked target).erase victim :=
  Links.members_unlink _ _

theorem get?_dropSession (victim key : SessionKey) :
    (registry.dropSession victim).sessionRoutes.get? key =
      if victim = key then none else registry.sessionRoutes.get? key :=
  Dict.get?_erase _ _ _

/-- The session that has to leave before a new one enters: the oldest one, once
the table is full. -/
def victim (registry : Registry) : Option SessionKey :=
  if registry.sessionRoutes.size < maxPersistedRoutes then none
  else registry.sessionRoutes.keys.head?

/-- The session that binding `key` to `target` pushes out of a full table: an
established route needs no room. -/
def evictedBy (registry : Registry) (target : TargetKey) (key : SessionKey) : Option SessionKey :=
  if (registry.targetRoutes.get? target).isSome ∧ (registry.sessionRoutes.get? key).isSome then none
  else registry.victim

def without (registry : Registry) : Option SessionKey → Registry
  | none => registry
  | some key => registry.dropSession key

private theorem evictRounds_of_room {rounds : List SessionKey}
    (room : registry.sessionRoutes.size < maxPersistedRoutes) :
    evictRounds rounds registry = registry := by
  cases rounds with
  | nil => rfl
  | cons first rest => rw [evictRounds, if_neg (Nat.not_le.mpr room)]

/-- A table within its bound loses at most one session before a new one enters. -/
theorem evictUntilRoom_eq (bounded : registry.sessionRoutes.size ≤ maxPersistedRoutes) :
    registry.evictUntilRoom = registry.without registry.victim := by
  unfold evictUntilRoom victim
  split
  · rename_i room
    rw [evictRounds_of_room room]
    rfl
  · rename_i noRoom
    have entries := registry.sessionRoutes.length_keys
    cases shape : registry.sessionRoutes.keys with
    | nil => rfl
    | cons oldest rest =>
      rw [shape, List.length_cons] at entries
      have smaller : (registry.dropSession oldest).sessionRoutes.size < maxPersistedRoutes := by
        rw [← Dict.length_keys, dropSession, Dict.keys_erase_head shape]
        omega
      rw [evictRounds, if_pos (Nat.not_lt.mp noRoom), evictOldestSession_of_keys shape,
        evictRounds_of_room smaller]
      rfl

theorem get?_without (gone : Option SessionKey) (key : SessionKey) :
    (registry.without gone).sessionRoutes.get? key =
      if gone = some key then none else registry.sessionRoutes.get? key := by
  cases gone with
  | none => rfl
  | some other => simpa [without] using get?_dropSession other key

theorem listings_without (gone : Option SessionKey) (key : SessionKey) :
    (registry.without gone).listings key =
      if gone = some key then [] else registry.listings key := by
  cases gone with
  | none => rfl
  | some other => simpa [listings, without, dropSession] using Links.listings_unlink other key

theorem keys_without_victim (registry : Registry) :
    (registry.without registry.victim).sessionRoutes.keys =
      if registry.sessionRoutes.size < maxPersistedRoutes then registry.sessionRoutes.keys
      else registry.sessionRoutes.keys.tail := by
  unfold victim
  split
  · rfl
  · cases shape : registry.sessionRoutes.keys with
    | nil => exact shape
    | cons oldest rest => exact Dict.keys_erase_head shape

private theorem frame_evictRounds {Field : Type} (field : Registry → Field)
    (frame : ∀ before : Registry, field before.evictOldestSession = field before)
    (rounds : List SessionKey) (registry : Registry) :
    field (evictRounds rounds registry) = field registry := by
  induction rounds generalizing registry with
  | nil => rfl
  | cons first rest ih =>
    unfold evictRounds
    split
    · exact (ih _).trans (frame registry)
    · rfl

/-- A field that one eviction leaves alone is left alone by the whole loop. -/
private theorem frame_evictUntilRoom {Field : Type} (field : Registry → Field)
    (frame : ∀ before : Registry, field before.evictOldestSession = field before) :
    field registry.evictUntilRoom = field registry :=
  frame_evictRounds field frame _ registry

@[simp] theorem targetRoutes_evictUntilRoom :
    registry.evictUntilRoom.targetRoutes = registry.targetRoutes :=
  frame_evictUntilRoom (·.targetRoutes) fun before => by
    unfold evictOldestSession
    split <;> rfl

@[simp] theorem sessionConflicts_evictUntilRoom :
    registry.evictUntilRoom.sessionConflicts = registry.sessionConflicts :=
  frame_evictUntilRoom (·.sessionConflicts) fun before => by
    unfold evictOldestSession
    split <;> rfl

@[simp] theorem targetConflicts_evictUntilRoom :
    registry.evictUntilRoom.targetConflicts = registry.targetConflicts :=
  frame_evictUntilRoom (·.targetConflicts) fun before => by
    unfold evictOldestSession
    split <;> rfl

@[simp] theorem chatIndex_evictUntilRoom :
    registry.evictUntilRoom.chatIndex = registry.chatIndex :=
  frame_evictUntilRoom (·.chatIndex) fun before => by
    unfold evictOldestSession
    split <;> rfl

@[simp] theorem targetChannelTypes_evictUntilRoom :
    registry.evictUntilRoom.targetChannelTypes = registry.targetChannelTypes :=
  frame_evictUntilRoom (·.targetChannelTypes) fun before => by
    unfold evictOldestSession
    split <;> rfl

@[simp] theorem targetWireIds_evictUntilRoom :
    registry.evictUntilRoom.targetWireIds = registry.targetWireIds :=
  frame_evictUntilRoom (·.targetWireIds) fun before => by
    unfold evictOldestSession
    split <;> rfl

theorem room_evictUntilRoom (bounded : registry.sessionRoutes.size ≤ maxPersistedRoutes) :
    registry.evictUntilRoom.sessionRoutes.size < maxPersistedRoutes := by
  rw [evictUntilRoom_eq bounded, ← Dict.length_keys, keys_without_victim]
  have positive : 0 < maxPersistedRoutes := by decide
  split
  · rwa [Dict.length_keys]
  · rw [List.length_tail, Dict.length_keys]
    omega

@[simp] theorem sessionRoutes_recordTarget (request : Request) :
    (registry.recordTarget request).sessionRoutes = registry.sessionRoutes := by
  unfold recordTarget
  dsimp only
  split <;> rfl

@[simp] theorem targetConflicts_recordTarget (request : Request) :
    (registry.recordTarget request).targetConflicts = registry.targetConflicts := by
  unfold recordTarget
  dsimp only
  split <;> rfl

@[simp] theorem sessionConflicts_recordTarget (request : Request) :
    (registry.recordTarget request).sessionConflicts = registry.sessionConflicts := by
  unfold recordTarget
  dsimp only
  split <;> rfl

@[simp] theorem targetSessions_recordTarget (request : Request) :
    (registry.recordTarget request).targetSessions = registry.targetSessions := by
  unfold recordTarget
  dsimp only
  split <;> rfl

/-- The guard under which `bind` reaches its last branch, on the target's side. -/
def Claimable (registry : Registry) (request : Request) : Prop :=
  (registry.targetRoutes.get? request.target = none ∧
    registry.targetRoutes.size < maxPersistedRoutes) ∨
  registry.targetRoutes.get? request.target = some request.robotId

theorem get?_targetRoutes_recordTarget {request : Request}
    (claimable : registry.Claimable request) (target : TargetKey) :
    (registry.recordTarget request).targetRoutes.get? target =
      if request.target = target then some request.robotId
      else registry.targetRoutes.get? target := by
  unfold recordTarget
  rcases claimable with ⟨unrouted, -⟩ | routed
  · simp [unrouted, recordWire, openTarget, Dict.get?_set]
  · by_cases same : request.target = target
    · simp [← same, routed, recordWire]
    · simp [same, routed, recordWire]

theorem get?_targetWireIds_recordTarget (request : Request) (target : TargetKey) :
    (registry.recordTarget request).targetWireIds.get? target =
      if request.target = target then
        request.wireTarget.or (registry.targetWireIds.get? target)
      else registry.targetWireIds.get? target := by
  have opened : (if (registry.targetRoutes.get? request.target).isNone then
      registry.openTarget request.target request.robotId else registry).targetWireIds =
        registry.targetWireIds := by
    split <;> rfl
  simp only [recordTarget, recordWire]
  cases request.wireTarget with
  | none =>
    rw [opened, Option.none_or, ite_self]
  | some wire =>
    rw [opened, Dict.get?_set, Option.some_or]

@[simp] theorem targetRoutes_claim (request : Request) :
    (registry.claim request).targetRoutes = (registry.recordTarget request).targetRoutes := by
  unfold claim
  cases request.sessionKey with
  | none => rfl
  | some key => simp [linkSession]

@[simp] theorem sessionConflicts_claim (request : Request) :
    (registry.claim request).sessionConflicts = registry.sessionConflicts := by
  unfold claim
  cases request.sessionKey with
  | none => exact sessionConflicts_recordTarget request
  | some key => simp [linkSession]

@[simp] theorem targetConflicts_claim (request : Request) :
    (registry.claim request).targetConflicts = registry.targetConflicts := by
  unfold claim
  cases request.sessionKey with
  | none => exact targetConflicts_recordTarget request
  | some key => simp [linkSession]

@[simp] theorem chatIndex_claim (request : Request) :
    (registry.claim request).chatIndex = (registry.recordTarget request).chatIndex := by
  unfold claim
  cases request.sessionKey with
  | none => rfl
  | some key => simp [linkSession]

@[simp] theorem targetChannelTypes_claim (request : Request) :
    (registry.claim request).targetChannelTypes =
      (registry.recordTarget request).targetChannelTypes := by
  unfold claim
  cases request.sessionKey with
  | none => rfl
  | some key => simp [linkSession]

@[simp] theorem targetWireIds_claim (request : Request) :
    (registry.claim request).targetWireIds = (registry.recordTarget request).targetWireIds := by
  unfold claim
  cases request.sessionKey with
  | none => rfl
  | some key => simp [linkSession]

@[simp] theorem dirty_claim (request : Request) : (registry.claim request).dirty = true := by
  unfold claim
  cases request.sessionKey with
  | none => rfl
  | some key => rfl

private theorem evict_recordTarget (bounded : registry.sessionRoutes.size ≤ maxPersistedRoutes)
    (request : Request) :
    (registry.recordTarget request).evictUntilRoom.sessionRoutes =
        (registry.without registry.victim).sessionRoutes ∧
      (registry.recordTarget request).evictUntilRoom.targetSessions =
        (registry.without registry.victim).targetSessions := by
  have same : (registry.recordTarget request).victim = registry.victim := by
    unfold victim
    rw [sessionRoutes_recordTarget]
  rw [evictUntilRoom_eq (by simpa using bounded), same]
  cases registry.victim with
  | none => exact ⟨sessionRoutes_recordTarget request, targetSessions_recordTarget request⟩
  | some gone => simp [without, dropSession]

theorem sessionRoutes_claim (bounded : registry.sessionRoutes.size ≤ maxPersistedRoutes)
    {request : Request} {key : SessionKey} (named : request.sessionKey = some key) :
    (registry.claim request).sessionRoutes =
      (registry.without registry.victim).sessionRoutes.set key request.robotId := by
  rw [← (evict_recordTarget bounded request).1, claim, named]
  rfl

theorem targetSessions_claim (bounded : registry.sessionRoutes.size ≤ maxPersistedRoutes)
    {request : Request} {key : SessionKey} (named : request.sessionKey = some key) :
    (registry.claim request).targetSessions =
      (registry.without registry.victim).targetSessions.link request.target key := by
  rw [← (evict_recordTarget bounded request).2, claim, named]
  rfl

theorem sessionless_claim {request : Request} (unnamed : request.sessionKey = none) :
    (registry.claim request).sessionRoutes = registry.sessionRoutes ∧
      (registry.claim request).targetSessions = registry.targetSessions := by
  rw [claim, unnamed]
  exact ⟨sessionRoutes_recordTarget request, targetSessions_recordTarget request⟩

theorem holders_releaseHolder (holder : ChatType × RobotId) (chatId other : ChatId) :
    ((registry.releaseHolder holder chatId).get? other).getD ∅ =
      if chatId = other then (registry.holders chatId).erase holder else registry.holders other := by
  unfold releaseHolder holders Links.members
  cases found : registry.chatIndex.get? chatId with
  | none =>
    by_cases same : chatId = other
    · simp [← same, found]
    · simp [same]
  | some held =>
    by_cases emptied : held.erase holder = ∅
    · by_cases same : chatId = other
      · simp [emptied, same]
      · simp [emptied, same, Dict.get?_erase]
    · by_cases same : chatId = other
      · simp [emptied, same]
      · simp [emptied, same, Dict.get?_set]

theorem inhabited_releaseHolder {holder : ChatType × RobotId} {chatId other : ChatId}
    (inhabited : ∀ chatId holders, registry.chatIndex.get? chatId = some holders → holders.Nonempty)
    {held : Finset (ChatType × RobotId)}
    (found : (registry.releaseHolder holder chatId).get? other = some held) : held.Nonempty := by
  unfold releaseHolder at found
  cases present : registry.chatIndex.get? chatId with
  | none =>
    rw [present] at found
    exact inhabited other held found
  | some old =>
    rw [present] at found
    by_cases emptied : old.erase holder = ∅
    · simp only [emptied, if_true, Dict.get?_erase] at found
      split at found
      · cases found
      · exact inhabited other held found
    · simp only [emptied, if_false, Dict.get?_set] at found
      split at found
      · cases found
        exact Finset.nonempty_iff_ne_empty.mpr emptied
      · exact inhabited other held found

theorem linked_forgotten (robotId : RobotId) (target other : TargetKey) :
    (registry.forgotten robotId target).linked other =
      if target = other then ∅ else registry.linked other :=
  Links.members_erase _ _

theorem orphaned_eq_false {target other : TargetKey} {key : SessionKey} (different : target ≠ other)
    (link : key ∈ registry.linked other) : registry.orphaned target key = false := by
  have kept : other ∈ Links.listings (registry.targetSessions.erase target) key := by
    rw [Links.mem_listings_iff, Links.members_erase, if_neg different]
    exact link
  unfold orphaned
  rw [decide_eq_false_iff_not]
  exact fun orphan => List.ne_nil_of_mem kept orphan.2

end Registry

end OctoChannel.Identity

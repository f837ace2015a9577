import OctoChannel.Identity.Branches

namespace OctoChannel.Identity

open Foundation

namespace Registry

variable {registry : Registry}

/-- The six maps agree with each other, and the session table is bounded. -/
structure Invariant (registry : Registry) : Prop where
  indexed : ∀ target robotId, (target.1, robotId) ∈ registry.holders target.2 ↔
    registry.targetRoutes.get? target = some robotId
  inhabited : ∀ chatId holders, registry.chatIndex.get? chatId = some holders → holders.Nonempty
  typed : ∀ target, (registry.targetChannelTypes.get? target).isSome ↔
    (registry.targetRoutes.get? target).isSome
  wired : ∀ target, (registry.targetWireIds.get? target).isSome →
    (registry.targetRoutes.get? target).isSome
  contested : ∀ target ∈ registry.targetConflicts, (registry.targetRoutes.get? target).isSome
  listed : ∀ target, (registry.targetSessions.get? target).isSome →
    (registry.targetRoutes.get? target).isSome
  owned : ∀ target, ∀ key ∈ registry.linked target, ∃ robotId,
    registry.sessionRoutes.get? key = some robotId ∧
      registry.targetRoutes.get? target = some robotId
  silenced : ∀ target ∈ registry.targetConflicts, ∀ key ∈ registry.linked target,
    key ∈ registry.sessionConflicts
  bounded : registry.sessionRoutes.size ≤ maxPersistedRoutes
  limited : registry.targetRoutes.size ≤ maxPersistedRoutes

theorem invariant_fresh : fresh.Invariant where
  indexed target robotId := by simp [fresh, holders]
  inhabited chatId holders found := by simp [fresh] at found
  typed target := by simp [fresh]
  wired target found := by simp [fresh] at found
  contested target member := by simp [fresh] at member
  listed target found := by simp [fresh] at found
  owned target key member := by simp [fresh, linked] at member
  silenced target member := by simp [fresh] at member
  bounded := by simp [fresh]
  limited := by simp [fresh]

theorem Invariant.contestTarget (inv : registry.Invariant) {target : TargetKey}
    (routed : (registry.targetRoutes.get? target).isSome) :
    (registry.contestTarget target).Invariant := by
  refine { inv with contested := ?_, silenced := ?_ }
  · intro other member
    rcases Finset.mem_insert.mp member with same | old
    · exact same ▸ routed
    · exact inv.contested other old
  · intro other member key link
    rcases Finset.mem_insert.mp member with same | old
    · exact Finset.mem_union_right _ (same ▸ link)
    · exact Finset.mem_union_left _ (inv.silenced other old key link)

theorem Invariant.contestSession (inv : registry.Invariant) (key : Option SessionKey) :
    (registry.contestSession key).Invariant :=
  { inv with
    silenced := fun target member key link =>
      Finset.mem_union_left _ (inv.silenced target member key link) }

theorem Invariant.withDirty (inv : registry.Invariant) (dirty : Bool) :
    ({ registry with dirty := dirty } : Registry).Invariant := { inv with }

theorem Invariant.recordWire (inv : registry.Invariant) {target : TargetKey}
    (channelType : ChannelType) (wire : Option WireChatId)
    (routed : (registry.targetRoutes.get? target).isSome) :
    (registry.recordWire target channelType wire).Invariant := by
  refine { inv with typed := ?_, wired := ?_ }
  · intro other
    simp only [Registry.recordWire, Dict.get?_set]
    split
    · rename_i same
      simp [← same, routed]
    · exact inv.typed other
  · intro other known
    cases wire with
    | none => exact inv.wired other known
    | some wire =>
      simp only [Registry.recordWire, Dict.get?_set] at known
      by_cases same : target = other
      · exact same ▸ routed
      · exact inv.wired other (by simpa [same] using known)

theorem Invariant.fillWire (inv : registry.Invariant) {target : TargetKey}
    (channelType : ChannelType) (wire : WireChatId)
    (routed : (registry.targetRoutes.get? target).isSome) :
    (registry.fillWire target channelType wire).Invariant :=
  (inv.recordWire channelType (some wire) routed).withDirty true

/-- A new target enters the routes, the reverse index and the channel types together. -/
theorem Invariant.openTarget (inv : registry.Invariant) {target : TargetKey} (robotId : RobotId)
    (channelType : ChannelType) (wire : Option WireChatId)
    (unrouted : registry.targetRoutes.get? target = none)
    (room : registry.targetRoutes.size < maxPersistedRoutes) :
    ((registry.openTarget target robotId).recordWire target channelType wire).Invariant := by
  have grown (other : TargetKey) : (registry.targetRoutes.get? other).isSome →
      ((registry.targetRoutes.set target robotId).get? other).isSome := by
    intro some
    rw [Dict.get?_set]
    split
    · rfl
    · exact some
  refine { indexed := ?_, inhabited := ?_, typed := ?_, wired := ?_, contested := ?_, listed := ?_,
           owned := ?_, silenced := inv.silenced, bounded := inv.bounded, limited := ?_ }
  · intro other owner
    change (other.1, owner) ∈ (registry.openTarget target robotId).holders other.2 ↔
      (registry.targetRoutes.set target robotId).get? other = some owner
    rw [holders_openTarget, Dict.get?_set]
    by_cases sameChat : target.2 = other.2
    · by_cases same : target = other
      · subst same
        have absent : (target.1, owner) ∉ registry.holders target.2 := by
          rw [inv.indexed, unrouted]
          simp
        simp [absent, eq_comm]
      · have different : other.1 ≠ target.1 := fun sameType =>
          same (Prod.ext sameType.symm sameChat)
        rw [if_pos sameChat, if_neg same, Finset.mem_insert, sameChat, inv.indexed]
        simp [different]
    · have different : target ≠ other := fun same => sameChat (congrArg Prod.snd same)
      rw [if_neg sameChat, if_neg different, inv.indexed]
  · intro chatId holders found
    simp only [Registry.recordWire, Registry.openTarget, Links.get?_link] at found
    split at found
    · cases found
      exact Finset.insert_nonempty _ _
    · exact inv.inhabited chatId holders found
  · intro other
    simp only [Registry.recordWire, Registry.openTarget, Dict.get?_set]
    split
    · simp
    · exact inv.typed other
  · intro other known
    cases wire with
    | none => exact grown other (inv.wired other known)
    | some wire =>
      simp only [Registry.recordWire, Registry.openTarget, Dict.get?_set] at known ⊢
      split at known
      · rename_i same
        simp [same]
      · exact (Dict.get?_set registry.targetRoutes target other robotId) ▸
          grown other (inv.wired other known)
  · exact fun other member => grown other (inv.contested other member)
  · exact fun other found => grown other (inv.listed other found)
  · intro other key link
    obtain ⟨owner, session, routed⟩ := inv.owned other key link
    refine ⟨owner, session, ?_⟩
    have different : target ≠ other := by
      rintro rfl
      rw [unrouted] at routed
      cases routed
    exact (Dict.get?_set_of_ne _ robotId different).trans routed
  · change (registry.targetRoutes.set target robotId).size ≤ maxPersistedRoutes
    rw [Dict.size_set]
    split
    · exact inv.limited
    · exact room

theorem Invariant.dropSession (inv : registry.Invariant) (victim : SessionKey) :
    (registry.dropSession victim).Invariant := by
  refine { inv with listed := ?_, owned := ?_, silenced := ?_, bounded := ?_ }
  · intro target found
    simp only [Registry.dropSession, Links.get?_unlink, Option.isSome_map] at found
    exact inv.listed target found
  · intro target key link
    rw [linked_dropSession, Finset.mem_erase] at link
    obtain ⟨owner, session, routed⟩ := inv.owned target key link.2
    refine ⟨owner, ?_, routed⟩
    rw [get?_dropSession, if_neg (Ne.symm link.1)]
    exact session
  · intro target member key link
    rw [linked_dropSession, Finset.mem_erase] at link
    exact inv.silenced target member key link.2
  · exact (Dict.size_erase_le _ _).trans inv.bounded

theorem Invariant.without (inv : registry.Invariant) (gone : Option SessionKey) :
    (registry.without gone).Invariant := by
  cases gone with
  | none => exact inv
  | some key => exact inv.dropSession key

theorem Invariant.evictUntilRoom (inv : registry.Invariant) :
    registry.evictUntilRoom.Invariant := by
  rw [evictUntilRoom_eq inv.bounded]
  exact inv.without registry.victim

theorem Invariant.linkSession (inv : registry.Invariant) {key : SessionKey} {target : TargetKey}
    {robotId : RobotId} (room : registry.sessionRoutes.size < maxPersistedRoutes)
    (routed : registry.targetRoutes.get? target = some robotId)
    (open' : target ∉ registry.targetConflicts)
    (free : registry.sessionRoutes.get? key = none ∨
      registry.sessionRoutes.get? key = some robotId) :
    (registry.linkSession key target robotId).Invariant := by
  refine { inv with listed := ?_, owned := ?_, silenced := ?_, bounded := ?_ }
  · intro other found
    simp only [Registry.linkSession, Links.get?_link] at found ⊢
    split at found
    · rename_i same
      exact same ▸ routed ▸ rfl
    · exact inv.listed other found
  · intro other member link
    rw [linked_linkSession] at link
    have kept : member ∈ registry.linked other → ∃ owner,
        (registry.sessionRoutes.set key robotId).get? member = some owner ∧
          registry.targetRoutes.get? other = some owner := by
      intro old
      obtain ⟨owner, session, target⟩ := inv.owned other member old
      refine ⟨owner, ?_, target⟩
      rw [Dict.get?_set]
      split
      · rename_i same
        subst same
        rcases free with none | own
        · rw [none] at session
          cases session
        · exact own.symm.trans session
      · exact session
    split at link
    · rename_i same
      subst same
      rcases Finset.mem_insert.mp link with new | old
      · subst new
        exact ⟨robotId, Dict.get?_set_self _ _ _, routed⟩
      · exact kept old
    · exact kept link
  · intro other member key' link
    have different : target ≠ other := fun same => open' (same ▸ member)
    rw [linked_linkSession, if_neg different] at link
    exact inv.silenced other member key' link
  · change (registry.sessionRoutes.set key robotId).size ≤ maxPersistedRoutes
    rw [Dict.size_set]
    split
    · exact inv.bounded
    · exact room

theorem Invariant.unlisted (inv : registry.Invariant) {key : SessionKey}
    (unrouted : registry.sessionRoutes.get? key = none) : registry.listings key = [] := by
  apply List.eq_nil_iff_forall_not_mem.mpr
  intro target member
  obtain ⟨owner, routed, -⟩ := inv.owned target key (mem_listings_iff.mp member)
  rw [unrouted] at routed
  cases routed

theorem listings_claim_of_ne (inv : registry.Invariant) {request : Request}
    {key other : SessionKey} (named : request.sessionKey = some key) (different : key ≠ other) :
    (registry.claim request).listings other =
      if registry.victim = some other then [] else registry.listings other := by
  rw [← listings_without]
  unfold listings
  rw [targetSessions_claim inv.bounded named]
  exact Links.listings_link_of_ne _ different

/-- A new target comes last among the targets of its session. -/
theorem listings_claim_of_unrouted (inv : registry.Invariant) {request : Request}
    {key : SessionKey} (named : request.sessionKey = some key)
    (unrouted : registry.targetRoutes.get? request.target = none) :
    (registry.claim request).listings key =
      (if registry.victim = some key then [] else registry.listings key) ++ [request.target] := by
  have absent : (registry.without registry.victim).targetSessions.get? request.target = none := by
    have listed := (inv.without registry.victim).listed request.target
    have routes : (registry.without registry.victim).targetRoutes = registry.targetRoutes := by
      cases registry.victim <;> rfl
    rw [routes, unrouted] at listed
    exact Option.not_isSome_iff_eq_none.mp fun found => by simpa using listed found
  rw [← listings_without]
  unfold listings
  rw [targetSessions_claim inv.bounded named]
  exact Links.listings_link_of_absent absent key

/-- A session that enters has its first target as its only one. -/
theorem listings_claim_of_new (inv : registry.Invariant) {request : Request}
    {key : SessionKey} (named : request.sessionKey = some key)
    (new : registry.sessionRoutes.get? key = none) :
    (registry.claim request).listings key = [request.target] := by
  have unlisted := (listings_without registry.victim key).trans
    (by rw [inv.unlisted new, ite_self] : _ = [])
  unfold listings
  rw [targetSessions_claim inv.bounded named]
  exact Links.listings_link_of_unlisted unlisted request.target

theorem Invariant.recordTarget (inv : registry.Invariant) {request : Request}
    (claimable : registry.Claimable request) : (registry.recordTarget request).Invariant := by
  unfold Registry.recordTarget
  rcases claimable with ⟨unrouted, room⟩ | routed
  · rw [if_pos (by simp [unrouted])]
    exact inv.openTarget request.robotId request.channelType request.wireTarget unrouted room
  · rw [if_neg (by simp [routed])]
    exact inv.recordWire request.channelType request.wireTarget (by simp [routed])

theorem Invariant.claim (inv : registry.Invariant) {request : Request}
    (claimable : registry.Claimable request)
    (open' : request.target ∉ registry.targetConflicts)
    (free : ∀ key ∈ request.sessionKey, registry.sessionRoutes.get? key = none ∨
      registry.sessionRoutes.get? key = some request.robotId) :
    (registry.claim request).Invariant := by
  have recorded := inv.recordTarget claimable
  unfold Registry.claim
  cases named : request.sessionKey with
  | none => exact recorded.withDirty true
  | some key =>
    refine (recorded.evictUntilRoom.linkSession (room_evictUntilRoom recorded.bounded)
      ?_ ?_ ?_).withDirty true
    · rw [targetRoutes_evictUntilRoom]
      simp [get?_targetRoutes_recordTarget claimable]
    · rw [targetConflicts_evictUntilRoom, targetConflicts_recordTarget]
      exact open'
    · rw [evictUntilRoom_eq recorded.bounded, get?_without, sessionRoutes_recordTarget]
      split
      · exact .inl rfl
      · exact free key named

/-- Every exit of `bind` keeps the representation invariant. -/
theorem Invariant.bindCase (inv : registry.Invariant) {request : Request} {result : BindResult}
    {after : Registry} (exit : BindCase registry request result after) : after.Invariant := by
  cases exit with
  | refused => exact inv
  | contestedSession named routed other open' =>
    split
    · rename_i both
      obtain ⟨owner, found, -⟩ := ownedByOther_eq_true.mp both
      exact (inv.contestTarget (by simp [found])).contestSession _
    · exact inv.contestSession _
  | contestedTarget routed => exact inv.contestTarget (by simp [routed])
  | filled routed => exact inv.fillWire _ _ (by simp [routed])
  | idempotent => exact inv
  | full => exact inv
  | claimed open' calm free target =>
    refine inv.claim ?_ open' free
    rcases target with new | ⟨routed, -⟩
    · exact .inl new
    · exact .inr routed

theorem Invariant.bindLocked (inv : registry.Invariant) (request : Request) :
    (registry.bindLocked request).2.Invariant :=
  inv.bindCase (bindLocked_case registry request)

theorem Invariant.bind (inv : registry.Invariant) (args : BindArgs) :
    (registry.bind args).2.Invariant := by
  unfold Registry.bind
  split
  · exact inv
  · exact inv.bindLocked _

theorem Invariant.bindRoutes (inv : registry.Invariant) (robotId : PyStr) (plan : List PlannedRoute) :
    (registry.bindRoutes robotId plan).2.Invariant := by
  induction plan generalizing registry with
  | nil => exact inv
  | cons route rest ih =>
    have next := inv.bind (planArgs robotId route)
    unfold Registry.bindRoutes
    split
    all_goals
      rename_i outcome
      rw [outcome] at next
      first
        | exact next
        | exact ih next

theorem Invariant.forgotten (inv : registry.Invariant) {robotId : RobotId} {target : TargetKey}
    (routed : registry.targetRoutes.get? target = some robotId)
    (open' : target ∉ registry.targetConflicts) :
    (registry.forgotten robotId target).Invariant := by
  refine { indexed := ?_, inhabited := ?_, typed := ?_, wired := ?_, contested := ?_, listed := ?_,
           owned := ?_, silenced := ?_, bounded := ?_, limited := ?_ }
  · intro other owner
    change (other.1, owner) ∈
      ((registry.releaseHolder (target.1, robotId) target.2).get? other.2).getD ∅ ↔
        (registry.targetRoutes.erase target).get? other = some owner
    rw [holders_releaseHolder, Dict.get?_erase]
    by_cases sameChat : target.2 = other.2
    · rw [if_pos sameChat, Finset.mem_erase, sameChat, inv.indexed]
      by_cases same : target = other
      · subst same
        simp only [ne_eq, Prod.mk.injEq, true_and, routed, Option.some.injEq, if_true]
        constructor
        · intro released
          exact absurd released.2.symm released.1
        · intro never
          cases never
      · have different : other.1 ≠ target.1 := fun sameType =>
          same (Prod.ext sameType.symm sameChat)
        simp [same, different]
    · have different : target ≠ other := fun same => sameChat (congrArg Prod.snd same)
      rw [if_neg sameChat, if_neg different, inv.indexed]
  · intro chatId held found
    exact inhabited_releaseHolder inv.inhabited found
  · intro other
    simp only [Registry.forgotten, Dict.get?_erase]
    split
    · simp
    · exact inv.typed other
  · intro other
    simp only [Registry.forgotten, Dict.get?_erase]
    split
    · simp
    · exact inv.wired other
  · intro other member
    have different : target ≠ other := fun same => open' (same ▸ member)
    simp only [Registry.forgotten, Dict.get?_erase, if_neg different]
    exact inv.contested other member
  · intro other
    simp only [Registry.forgotten, Dict.get?_erase]
    split
    · simp
    · exact inv.listed other
  · intro other key link
    rw [linked_forgotten] at link
    split at link
    · simp at link
    · rename_i different
      obtain ⟨owner, session, found⟩ := inv.owned other key link
      refine ⟨owner, ?_, ?_⟩
      · simp only [Registry.forgotten, Dict.get?_filterKeys,
          orphaned_eq_false different link, Bool.not_false, if_true]
        exact session
      · simp only [Registry.forgotten, Dict.get?_erase, if_neg different]
        exact found
  · intro other member key link
    rw [linked_forgotten] at link
    split at link
    · simp at link
    · exact inv.silenced other member key link
  · exact (List.length_filter_le _ _).trans inv.bounded
  · exact (Dict.size_erase_le _ _).trans inv.limited

theorem Invariant.written (inv : registry.Invariant) : registry.written.Invariant := { inv with }

end Registry

end OctoChannel.Identity

import OctoChannel.Identity.Ownership

namespace OctoChannel.Identity

open Foundation

namespace Registry

variable {first second registry : Registry}

inductive Call where
  | bind (args : BindArgs)
  | bindPlan (robotId : PyStr) (plan : List PlannedRoute)
  | forgetTarget (args : ForgetArgs) (write : WriteEnd)

inductive Answer where
  | bind (answer : Except PyError BindResult)
  | done (answer : Except PyError Bool)

def perform (registry : Registry) : Call → Answer × Registry
  | .bind args => (.bind (registry.bind args).1, (registry.bind args).2)
  | .bindPlan robotId plan =>
    (.done (registry.bindPlan robotId plan).1, (registry.bindPlan robotId plan).2)
  | .forgetTarget args write =>
    (.done (registry.forgetTarget args write).1, (registry.forgetTarget args write).2)

def performAll (registry : Registry) : List Call → List Answer × Registry
  | [] => ([], registry)
  | call :: rest =>
    ((registry.perform call).1 :: ((registry.perform call).2.performAll rest).1,
      ((registry.perform call).2.performAll rest).2)

/-- Every lookup and count answers the same. -/
structure SameLookups (first second : Registry) : Prop where
  session : ∀ key, first.robotIdForSession key = second.robotIdForSession key
  target : ∀ target, first.robotIdForTarget target = second.robotIdForTarget target
  chatId : ∀ chatId, first.lookupChatId chatId = second.lookupChatId chatId
  state : ∀ chatId, first.chatIdHasState chatId = second.chatIdHasState chatId
  sessionConflict : ∀ key, first.sessionConflict key = second.sessionConflict key
  targetConflict : ∀ target, first.targetConflict target = second.targetConflict target
  routes : first.routeCount = second.routeCount
  sessions : first.sessionCount = second.sessionCount
  capacity : first.remainingCapacity = second.remainingCapacity
  exhausted : first.capacityExhausted = second.capacityExhausted

/-- The registries answer every sequence of calls alike, and every lookup after it. -/
def Indistinguishable (first second : Registry) : Prop :=
  ∀ calls, (first.performAll calls).1 = (second.performAll calls).1 ∧
    (first.performAll calls).2.SameLookups (second.performAll calls).2

/-- Agreement on routes and conflicts, and for each session the same targets in
the same order. -/
structure Alike (first second : Registry) : Prop extends Agree first second where
  listings : ∀ key, first.listings key = second.listings key

theorem Alike.linked (alike : first.Alike second) (target : TargetKey) :
    first.linked target = second.linked target := by
  ext key
  rw [← mem_listings_iff, ← mem_listings_iff, alike.listings]

theorem Alike.holders (alike : first.Alike second) (chatId : ChatId) :
    first.holders chatId = second.holders chatId :=
  congrArg (·.getD ∅) (alike.index chatId)

theorem Alike.victim (alike : first.Alike second) : first.victim = second.victim := by
  unfold Registry.victim
  rw [alike.sessions]

theorem Alike.sameLookups (alike : first.Alike second) : first.SameLookups second where
  session key := by
    unfold robotIdForSession
    rw [alike.sessions, alike.sessionConflicts]
  target target := by
    unfold robotIdForTarget
    rw [alike.targets, alike.targetConflicts]
  chatId chatId := by
    unfold lookupChatId
    simp only [alike.holders, alike.targetConflicts, alike.types, alike.wires]
  state chatId := by
    unfold chatIdHasState
    simp only [alike.holders, alike.targetConflicts]
  sessionConflict key := by
    unfold Registry.sessionConflict
    rw [alike.sessionConflicts]
  targetConflict target := by
    unfold Registry.targetConflict
    rw [alike.targetConflicts]
  routes := by
    unfold routeCount
    rw [alike.targets]
  sessions := by
    unfold sessionCount
    rw [alike.sessions]
  capacity := by
    unfold remainingCapacity
    rw [alike.targets]
  exhausted := by
    unfold capacityExhausted
    rw [alike.targets]

theorem Alike.contestTarget (alike : first.Alike second) (target : TargetKey) :
    (first.contestTarget target).Alike (second.contestTarget target) :=
  { alike with
    sessionConflicts := by
      change first.sessionConflicts ∪ first.linked target = _
      rw [alike.sessionConflicts, alike.linked]
      rfl
    targetConflicts := congrArg (insert target) alike.targetConflicts }

theorem Alike.contestSession (alike : first.Alike second) (key : Option SessionKey) :
    (first.contestSession key).Alike (second.contestSession key) :=
  { alike with sessionConflicts := congrArg (· ∪ key.toFinset) alike.sessionConflicts }

theorem Alike.withDirty (alike : first.Alike second) (dirty dirty' : Bool) :
    ({ first with dirty := dirty } : Registry).Alike { second with dirty := dirty' } :=
  { alike with }

theorem Alike.recordWire (alike : first.Alike second) (target : TargetKey)
    (channelType : ChannelType) (wire : Option WireChatId) :
    (first.recordWire target channelType wire).Alike
      (second.recordWire target channelType wire) := by
  refine { alike with types := ?_, wires := ?_ }
  · intro other
    simp only [Registry.recordWire, Dict.get?_set, alike.types]
  · intro other
    cases wire with
    | none => exact alike.wires other
    | some wire => simp only [Registry.recordWire, Dict.get?_set, alike.wires]

theorem Alike.fillWire (alike : first.Alike second) (target : TargetKey)
    (channelType : ChannelType) (wire : WireChatId) :
    (first.fillWire target channelType wire).Alike (second.fillWire target channelType wire) :=
  (alike.recordWire target channelType (some wire)).withDirty true true

theorem Alike.openTarget (alike : first.Alike second) (target : TargetKey) (robotId : RobotId) :
    (first.openTarget target robotId).Alike (second.openTarget target robotId) := by
  refine { alike with targets := ?_, index := ?_ }
  · exact congrArg (·.set target robotId) alike.targets
  · intro chatId
    have same : first.chatIndex.members target.2 = second.chatIndex.members target.2 :=
      alike.holders target.2
    simp only [Registry.openTarget, Links.get?_link, alike.index, same]

theorem Alike.recordTarget (alike : first.Alike second) (request : Request) :
    (first.recordTarget request).Alike (second.recordTarget request) := by
  unfold Registry.recordTarget
  rw [alike.targets]
  split
  · exact (alike.openTarget _ _).recordWire _ _ _
  · exact alike.recordWire _ _ _

/-- `claim` keeps alike registries alike: a second target of a session is always a
new one and comes last on both sides. -/
theorem Alike.claim (alike : first.Alike second) (inv : first.Invariant)
    (inv' : second.Invariant) {request : Request}
    (target : first.targetRoutes.get? request.target = none ∨
      ∃ key, request.sessionKey = some key ∧ first.sessionRoutes.get? key = none) :
    (first.claim request).Alike (second.claim request) := by
  have recorded := alike.recordTarget request
  refine { sessions := ?_, targets := ?_, sessionConflicts := ?_, targetConflicts := ?_,
           index := ?_, types := ?_, wires := ?_, listings := ?_ }
  · cases named : request.sessionKey with
    | none => rw [(sessionless_claim named).1, (sessionless_claim named).1, alike.sessions]
    | some key =>
      rw [sessionRoutes_claim inv.bounded named, sessionRoutes_claim inv'.bounded named,
        alike.victim]
      cases second.victim with
      | none => exact congrArg (·.set key request.robotId) alike.sessions
      | some gone => simp only [without, dropSession, alike.sessions]
  · rw [targetRoutes_claim, targetRoutes_claim, recorded.targets]
  · rw [sessionConflicts_claim, sessionConflicts_claim, alike.sessionConflicts]
  · rw [targetConflicts_claim, targetConflicts_claim, alike.targetConflicts]
  · intro chatId
    rw [chatIndex_claim, chatIndex_claim, recorded.index]
  · intro other
    rw [targetChannelTypes_claim, targetChannelTypes_claim, recorded.types]
  · intro other
    rw [targetWireIds_claim, targetWireIds_claim, recorded.wires]
  · intro other
    cases named : request.sessionKey with
    | none =>
      unfold Registry.listings
      rw [(sessionless_claim named).2, (sessionless_claim named).2]
      exact alike.listings other
    | some key =>
      by_cases same : key = other
      · subst same
        rcases target with unrouted | ⟨own, same, new⟩
        · have unrouted' : second.targetRoutes.get? request.target = none := by
            rwa [← alike.targets]
          rw [listings_claim_of_unrouted inv named unrouted,
            listings_claim_of_unrouted inv' named unrouted', alike.victim, alike.listings]
        · cases named.symm.trans same
          have new' : second.sessionRoutes.get? key = none := by rwa [← alike.sessions]
          rw [listings_claim_of_new inv named new, listings_claim_of_new inv' named new']
      · rw [listings_claim_of_ne inv named same, listings_claim_of_ne inv' named same,
          alike.victim, alike.listings]

/-- The second state follows the first through the same exit of `bind`. -/
theorem Alike.bindLocked (alike : first.Alike second) (inv : first.Invariant)
    (inv' : second.Invariant) (request : Request) :
    (first.bindLocked request).1 = (second.bindLocked request).1 ∧
      (first.bindLocked request).2.Alike (second.bindLocked request).2 := by
  unfold Registry.bindLocked
  simp only [alike.sessions, alike.targets, alike.wires, alike.sessionConflicts,
    alike.targetConflicts]
  split_ifs with sessionHit targetHit sessionOther both targetOther wires established exhausted
  · exact ⟨rfl, alike⟩
  · exact ⟨rfl, alike⟩
  · exact ⟨rfl, (alike.contestTarget _).contestSession _⟩
  · exact ⟨rfl, alike.contestSession _⟩
  · exact ⟨rfl, alike.contestTarget _⟩
  · exact ⟨rfl, alike.contestTarget _⟩
  · split
    · exact ⟨rfl, alike.fillWire _ _ _⟩
    · exact ⟨rfl, alike⟩
  · exact ⟨rfl, alike⟩
  · refine ⟨rfl, alike.claim inv inv' ?_⟩
    rw [alike.targets]
    cases routed : second.targetRoutes.get? request.target with
    | none => exact .inl rfl
    | some owner =>
      rw [routed, Option.isSome_some, Bool.true_and, Bool.or_eq_true, not_or] at established
      obtain ⟨unnamed, new⟩ := established
      cases named : request.sessionKey with
      | none => exact absurd (by rw [named]; rfl) unnamed
      | some key =>
        rw [named, Option.bind_some, Option.not_isSome_iff_eq_none] at new
        exact .inr ⟨key, rfl, by rwa [alike.sessions]⟩

theorem Alike.bind (alike : first.Alike second) (inv : first.Invariant)
    (inv' : second.Invariant) (args : BindArgs) :
    (first.bind args).1 = (second.bind args).1 ∧
      (first.bind args).2.Alike (second.bind args).2 := by
  unfold Registry.bind
  cases args.validate with
  | error error => exact ⟨rfl, alike⟩
  | ok request =>
    obtain ⟨same, after⟩ := alike.bindLocked inv inv' request
    exact ⟨congrArg Except.ok same, after⟩

theorem Alike.bindRoutes (alike : first.Alike second) (inv : first.Invariant)
    (inv' : second.Invariant) (robotId : PyStr) (plan : List PlannedRoute) :
    (first.bindRoutes robotId plan).1 = (second.bindRoutes robotId plan).1 ∧
      (first.bindRoutes robotId plan).2.Alike (second.bindRoutes robotId plan).2 := by
  induction plan generalizing first second with
  | nil => exact ⟨rfl, alike⟩
  | cons route rest ih =>
    obtain ⟨same, after⟩ := alike.bind inv inv' (planArgs robotId route)
    have next := inv.bind (planArgs robotId route)
    have next' := inv'.bind (planArgs robotId route)
    unfold Registry.bindRoutes
    rcases one : first.bind (planArgs robotId route) with ⟨result, left⟩
    rcases two : second.bind (planArgs robotId route) with ⟨result', right⟩
    rw [one, two] at same after
    rw [one] at next
    rw [two] at next'
    obtain rfl : result = result' := same
    rcases result with error | _ | _ | _ | _
    · exact ⟨rfl, after⟩
    · exact ih after next next'
    · exact ⟨rfl, after⟩
    · exact ih after next next'
    · exact ⟨rfl, after⟩

/-- Restoring the snapshots of alike registries gives alike registries. -/
theorem Alike.restored (alike : first.Alike second) (inv : first.Invariant)
    (inv' : second.Invariant) (left right : Registry) :
    (left.restored first).Alike (right.restored second) where
  toAgree := (agree_restored inv left).trans
    (alike.toAgree.trans (agree_restored inv' right).symm)
  listings key := by
    rw [listings_restored inv, listings_restored inv', sessionTarget, sessionTarget,
      alike.listings]

theorem Alike.bindPlan (alike : first.Alike second) (inv : first.Invariant)
    (inv' : second.Invariant) (robotId : PyStr) (plan : List PlannedRoute) :
    (first.bindPlan robotId plan).1 = (second.bindPlan robotId plan).1 ∧
      (first.bindPlan robotId plan).2.Alike (second.bindPlan robotId plan).2 := by
  obtain ⟨same, after⟩ := alike.bindRoutes inv inv' robotId plan
  rcases one : first.bindRoutes robotId plan with ⟨ending, left⟩
  rcases two : second.bindRoutes robotId plan with ⟨ending', right⟩
  rw [one, two] at same after
  obtain rfl : ending = ending' := same
  cases ending with
  | accepted =>
    rw [bindPlan_accepted one, bindPlan_accepted two]
    exact ⟨rfl, after⟩
  | raised error =>
    rw [bindPlan_raised one, bindPlan_raised two]
    exact ⟨rfl, after⟩
  | refused =>
    rw [bindPlan_refused inv one, bindPlan_refused inv' two]
    exact ⟨rfl, (alike.restored inv inv' left right).withDirty _ _⟩

theorem Alike.forgotten (alike : first.Alike second) (robotId : RobotId) (target : TargetKey) :
    (first.forgotten robotId target).Alike (second.forgotten robotId target) := by
  have orphans : first.orphaned target = second.orphaned target := by
    funext key
    have listed : Links.listings (first.targetSessions.erase target) key =
        Links.listings (second.targetSessions.erase target) key := by
      rw [Links.listings_erase, Links.listings_erase]
      exact congrArg (List.filter (· ≠ target)) (alike.listings key)
    simp only [orphaned, alike.linked, listed]
  refine { sessions := ?_, targets := ?_, sessionConflicts := alike.sessionConflicts,
           targetConflicts := alike.targetConflicts, index := ?_, types := ?_, wires := ?_,
           listings := ?_ }
  · simp only [Registry.forgotten, alike.sessions, orphans]
  · exact congrArg (·.erase target) alike.targets
  · intro chatId
    have held := alike.index target.2
    simp only [Registry.forgotten, releaseHolder, held]
    split
    · exact alike.index chatId
    · split
      · rw [Dict.get?_erase, Dict.get?_erase, alike.index]
      · rw [Dict.get?_set, Dict.get?_set, alike.index]
  · intro other
    simp only [Registry.forgotten, Dict.get?_erase, alike.types]
  · intro other
    simp only [Registry.forgotten, Dict.get?_erase, alike.wires]
  · intro key
    change Links.listings (first.targetSessions.erase target) key =
      Links.listings (second.targetSessions.erase target) key
    rw [Links.listings_erase, Links.listings_erase]
    exact congrArg (List.filter (· ≠ target)) (alike.listings key)

theorem Alike.forgettable (alike : first.Alike second) (robotId : RobotId) (target : TargetKey) :
    first.forgettable robotId target = second.forgettable robotId target := by
  simp only [Registry.forgettable, alike.targetConflicts, alike.targets, alike.linked,
    alike.sessionConflicts]

theorem Alike.forgetTarget (alike : first.Alike second) (inv : first.Invariant)
    (inv' : second.Invariant) (args : ForgetArgs) (write : WriteEnd) :
    (first.forgetTarget args write).1 = (second.forgetTarget args write).1 ∧
      (first.forgetTarget args write).2.Alike (second.forgetTarget args write).2 := by
  unfold Registry.forgetTarget
  split
  · exact ⟨rfl, alike⟩
  · rename_i robotId target valid
    rw [alike.forgettable]
    split
    · have dropped := alike.forgotten robotId target
      cases write with
      | durable => exact ⟨rfl, { dropped with }⟩
      | raised error => exact ⟨rfl, dropped⟩
      | failed =>
        dsimp only
        rw [applyBody_bodyLocked_ok inv, applyBody_bodyLocked_ok inv']
        exact ⟨rfl, (alike.restored inv inv' _ _).withDirty _ _⟩
    · exact ⟨rfl, alike⟩

/-- The bisimulation step. -/
theorem Alike.perform (alike : first.Alike second) (inv : first.Invariant)
    (inv' : second.Invariant) (call : Call) :
    (first.perform call).1 = (second.perform call).1 ∧
      (first.perform call).2.Alike (second.perform call).2 := by
  cases call with
  | bind args =>
    obtain ⟨same, after⟩ := alike.bind inv inv' args
    exact ⟨congrArg Answer.bind same, after⟩
  | bindPlan robotId plan =>
    obtain ⟨same, after⟩ := alike.bindPlan inv inv' robotId plan
    exact ⟨congrArg Answer.done same, after⟩
  | forgetTarget args write =>
    obtain ⟨same, after⟩ := alike.forgetTarget inv inv' args write
    exact ⟨congrArg Answer.done same, after⟩

theorem Invariant.perform (inv : registry.Invariant) (call : Call) :
    (registry.perform call).2.Invariant := by
  cases call with
  | bind args => exact inv.bind args
  | bindPlan robotId plan => exact inv.bindPlan robotId plan
  | forgetTarget args write => exact inv.forgetTarget args write

/-- Alike registries stay indistinguishable for every sequence of calls. -/
theorem Alike.indistinguishable (alike : first.Alike second) (inv : first.Invariant)
    (inv' : second.Invariant) : first.Indistinguishable second := by
  intro calls
  induction calls generalizing first second with
  | nil => exact ⟨rfl, alike.sameLookups⟩
  | cons call rest ih =>
    obtain ⟨same, after⟩ := alike.perform inv inv' call
    obtain ⟨answers, lookups⟩ := ih after (inv.perform call) (inv'.perform call)
    unfold performAll
    exact ⟨List.cons_eq_cons.mpr ⟨same, answers⟩, lookups⟩

/-- A snapshot of sessions with one target each restores an alike registry. -/
theorem SinglyLinked.alike_restored (single : registry.SinglyLinked) (inv : registry.Invariant)
    (before : Registry) : (before.restored registry).Alike registry where
  toAgree := agree_restored inv before
  listings key := by
    rw [listings_restored inv, sessionTarget]
    have nodup : (registry.listings key).Nodup := Links.nodup_listings key
    rcases shape : registry.listings key with _ | ⟨target, _ | ⟨other, rest⟩⟩
    · rfl
    · rfl
    · have same := single key target other (mem_listings_iff.mp (by simp [shape]))
        (mem_listings_iff.mp (by simp [shape]))
      rw [shape, same] at nodup
      simp at nodup

end Registry

end OctoChannel.Identity

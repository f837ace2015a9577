import OctoChannel.Identity.SnapshotJson

/-! The states a registry can reach, through its own operations and through
loading snapshots that a registry wrote. -/

namespace OctoChannel.Identity

open Foundation

namespace Registry

variable {source registry : Registry}

/-- Every sequence of `bind`, `bind_plan`, `forget_target`, `flush` and `load`,
whatever its writes end in. A load may fall back or fail; the body it applies, if
any, was written by a registry that is reachable itself. -/
inductive Reachable : Registry → Prop where
  | fresh : Reachable fresh
  | bind {registry : Registry} (before : Reachable registry) (args : BindArgs) :
      Reachable (registry.bind args).2
  | bindPlan {registry : Registry} (before : Reachable registry) (robotId : PyStr)
      (plan : List PlannedRoute) : Reachable (registry.bindPlan robotId plan).2
  | forgetTarget {registry : Registry} (before : Reachable registry) (args : ForgetArgs)
      (write : WriteEnd) : Reachable (registry.forgetTarget args write).2
  | flush {registry : Registry} (before : Reachable registry) (force : Bool) (write : WriteEnd) :
      Reachable (registry.flush force write).2
  | load {registry source : Registry} {current backup : Except PyError Reading}
      (before : Reachable registry) (wrote : Reachable source)
      (own : ∀ body, Reading.chosen? current backup = some body →
        body = source.bodyLocked.sortKeys) : Reachable (registry.load current backup).1

theorem applyBody_sorted_ok (inv : source.Invariant) (registry : Registry) :
    registry.applyBody source.bodyLocked.sortKeys = (registry.restored source, none) := by
  rw [applyBody_sortKeys, applyBody_bodyLocked_ok inv]

theorem bindPlan_accepted {robotId : PyStr} {plan : List PlannedRoute} {bound : Registry}
    (ended : registry.bindRoutes robotId plan = (.accepted, bound)) :
    registry.bindPlan robotId plan = (.ok true, bound) := by
  rw [bindPlan, ended]

theorem bindPlan_raised {robotId : PyStr} {plan : List PlannedRoute} {error : PyError}
    {partly : Registry} (ended : registry.bindRoutes robotId plan = (.raised error, partly)) :
    registry.bindPlan robotId plan = (.error error, partly) := by
  rw [bindPlan, ended]

theorem bindPlan_refused (inv : registry.Invariant) {robotId : PyStr} {plan : List PlannedRoute}
    {partly : Registry} (ended : registry.bindRoutes robotId plan = (.refused, partly)) :
    registry.bindPlan robotId plan =
      (.ok false, { partly.restored registry with dirty := registry.dirty }) := by
  rw [bindPlan, ended]
  dsimp only
  rw [applyBody_bodyLocked_ok inv]

theorem Invariant.bindPlan (inv : registry.Invariant) (robotId : PyStr) (plan : List PlannedRoute) :
    (registry.bindPlan robotId plan).2.Invariant := by
  have partly := inv.bindRoutes robotId plan
  rcases ended : registry.bindRoutes robotId plan with ⟨_ | _ | error, bound⟩
  · rw [bindPlan_accepted ended]
    rwa [ended] at partly
  · rw [bindPlan_refused inv ended]
    exact (inv.restored bound).withDirty registry.dirty
  · rw [bindPlan_raised ended]
    rwa [ended] at partly

theorem forgettable_iff {robotId : RobotId} {target : TargetKey} :
    registry.forgettable robotId target = true ↔ target ∉ registry.targetConflicts ∧
      registry.targetRoutes.get? target = some robotId ∧
      ∀ key ∈ registry.linked target, key ∉ registry.sessionConflicts := by
  rw [forgettable, decide_eq_true_iff]

theorem Invariant.forgetTarget (inv : registry.Invariant) (args : ForgetArgs) (write : WriteEnd) :
    (registry.forgetTarget args write).2.Invariant := by
  unfold Registry.forgetTarget
  split
  · exact inv
  · rename_i robotId target valid
    split
    · rename_i guard
      obtain ⟨open', routed, -⟩ := forgettable_iff.mp guard
      have dropped := inv.forgotten routed open'
      cases write with
      | durable => exact dropped.written
      | raised error => exact dropped
      | failed =>
        dsimp only
        rw [applyBody_bodyLocked_ok inv]
        exact (inv.restored _).withDirty registry.dirty
    · exact inv

theorem Invariant.flush (inv : registry.Invariant) (force : Bool) (write : WriteEnd) :
    (registry.flush force write).2.Invariant := by
  unfold Registry.flush
  split
  · exact inv
  · cases write with
    | durable => exact inv.written
    | failed => exact inv.withDirty true
    | raised error => exact inv.withDirty false

/-- A load applies the chosen body, on top of the flag for a fallback. -/
theorem load_of_chosen {current backup : Except PyError Reading} {body : Json}
    (chosen : Reading.chosen? current backup = some body) (registry : Registry) :
    ∃ fallback, registry.load current backup =
      { registry with restoredFromBackup := fallback }.applyBody body := by
  cases current with
  | error error => cases chosen
  | ok reading =>
    cases reading with
    | ok stored =>
      cases chosen
      exact ⟨registry.restoredFromBackup, rfl⟩
    | missing | corrupt | unsupported =>
      cases backup with
      | error error => cases chosen
      | ok fallback =>
        cases fallback with
        | ok stored =>
          cases chosen
          exact ⟨true, rfl⟩
        | missing | corrupt | unsupported => cases chosen

/-- Without a usable document a load changes at most the corruption flag. -/
theorem load_of_unchosen {current backup : Except PyError Reading}
    (chosen : Reading.chosen? current backup = none) (registry : Registry) :
    ∃ corrupt, (registry.load current backup).1 = { registry with snapshotCorrupt := corrupt } := by
  cases current with
  | error error => exact ⟨registry.snapshotCorrupt, rfl⟩
  | ok reading =>
    cases reading with
    | ok stored => cases chosen
    | missing | corrupt | unsupported =>
      cases backup with
      | error error => exact ⟨registry.snapshotCorrupt, rfl⟩
      | ok fallback =>
        cases fallback with
        | ok stored => cases chosen
        | missing | corrupt | unsupported =>
          first
            | exact ⟨true, rfl⟩
            | exact ⟨registry.snapshotCorrupt, rfl⟩

theorem Invariant.load (inv : registry.Invariant) (wrote : source.Invariant)
    {current backup : Except PyError Reading}
    (own : ∀ body, Reading.chosen? current backup = some body →
      body = source.bodyLocked.sortKeys) : (registry.load current backup).1.Invariant := by
  cases chosen : Reading.chosen? current backup with
  | some body =>
    obtain ⟨fallback, loaded⟩ := load_of_chosen chosen registry
    rw [loaded, own body chosen, applyBody_sorted_ok wrote]
    exact wrote.restored _
  | none =>
    obtain ⟨corrupt, loaded⟩ := load_of_unchosen chosen registry
    rw [loaded]
    exact { inv with }

theorem Reachable.invariant (reachable : registry.Reachable) : registry.Invariant := by
  induction reachable with
  | fresh => exact invariant_fresh
  | bind _ args inv => exact inv.bind args
  | bindPlan _ robotId plan inv => exact inv.bindPlan robotId plan
  | forgetTarget _ args write inv => exact inv.forgetTarget args write
  | flush _ force write inv => exact inv.flush force write
  | load _ _ own inv wrote => exact inv.load wrote own

/-- The reverse index answers exactly the routed targets, channel types cover
exactly the routed targets, wire ids and conflicts lie within them, and a linked
session is routed to the owner of its target. -/
theorem reachable_representation {registry : Registry} (reachable : registry.Reachable) :
    (∀ chatId, (registry.holders chatId).Nonempty ↔
      ∃ chatType, (registry.targetRoutes.get? (chatType, chatId)).isSome) ∧
    (∀ chatId, registry.chatIndex.get? chatId ≠ some ∅) ∧
    (∀ chatId holder, holder ∈ registry.holders chatId ↔
      registry.targetRoutes.get? (holder.1, chatId) = some holder.2) ∧
    (∀ target, (registry.targetChannelTypes.get? target).isSome ↔
      (registry.targetRoutes.get? target).isSome) ∧
    (∀ target, (registry.targetWireIds.get? target).isSome →
      (registry.targetRoutes.get? target).isSome) ∧
    (∀ target ∈ registry.targetConflicts, (registry.targetRoutes.get? target).isSome) ∧
    (∀ target, ∀ key ∈ registry.linked target, ∃ owner,
      registry.sessionRoutes.get? key = some owner ∧
        registry.targetRoutes.get? target = some owner) := by
  have inv := reachable.invariant
  refine ⟨fun chatId => ?_, fun chatId empty => ?_, fun chatId holder => ?_, inv.typed, inv.wired,
    inv.contested, inv.owned⟩
  · constructor
    · rintro ⟨holder, member⟩
      exact ⟨holder.1, by simp [(inv.indexed (holder.1, chatId) holder.2).mp member]⟩
    · rintro ⟨chatType, routed⟩
      obtain ⟨robotId, owner⟩ := Option.isSome_iff_exists.mp routed
      exact ⟨_, (inv.indexed (chatType, chatId) robotId).mpr owner⟩
  · exact Finset.not_nonempty_empty (inv.inhabited chatId ∅ empty)
  · exact inv.indexed (holder.1, chatId) holder.2

theorem reachable_representation_group :
    ((fresh.bind (groupBind "bot" (some "s1") "g1")).2.holders ⟨py "g1", by decide⟩).Nonempty := by
  refine ((reachable_representation (.bind .fresh _)).1 _).mpr ⟨.group, ?_⟩
  decide

end Registry

end OctoChannel.Identity

import OctoChannel.Identity.Recovery

namespace OctoChannel.Identity

open Foundation

namespace Registry

/-- Restoring the own snapshot, from the body or through a document, raises nothing
and leaves a registry that no later call can tell from this one. -/
structure RoundTrips (registry : Registry) : Prop where
  body : ∀ before : Registry, ∃ restored,
    before.applyBody registry.bodyLocked = (restored, none) ∧
      restored.Indistinguishable registry
  document : ∀ runtime sha256 content,
    documentBytes runtime sha256 registry.bodyLocked = .ok content →
      ∀ (before : Registry) backup, ∃ restored,
        before.load (readStateDocument runtime sha256 (some (.bytes content))) backup =
          (restored, none) ∧ restored.Indistinguishable registry

/-- A registry restores to an indistinguishable one when no session is linked to
two targets: a session record stores a single one. -/
theorem reachable_roundTrips {registry : Registry} (reachable : registry.Reachable)
    (single : registry.SinglyLinked) : registry.RoundTrips := by
  have inv := reachable.invariant
  have same (before : Registry) : (before.restored registry).Indistinguishable registry :=
    (single.alike_restored inv before).indistinguishable (inv.restored before) inv
  constructor
  · exact fun before => ⟨_, applyBody_bodyLocked_ok inv before, same before⟩
  · intro runtime sha256 content written before backup
    refine ⟨before.restored registry, ?_, same before⟩
    rw [readStateDocument_snapshot written]
    exact applyBody_sorted_ok inv before

/-- A group whose wire id is not known. -/
def wirelessGroup (robotId sessionKey chatId : String) : BindArgs :=
  { groupBind robotId (some sessionKey) chatId with wireChatIdKnown := false }

/-- Three conversations: the wire id of the second is not known, and the last one is
contested. -/
def mixedRegistry : Registry :=
  ((((fresh.bind (groupBind "x" (some "s1") "t1")).2.bind (wirelessGroup "x" "s2" "t2")).2.bind
    (groupBind "y" (some "s3") "t3")).2.bind (groupBind "x" none "t3")).2

theorem reachable_roundTrips_mixed :
    mixedRegistry.targetSessions.count = 3 ∧
      mixedRegistry.sessionConflict (py "s3") = true ∧
      mixedRegistry.targetWireIds.get? (.group, ⟨py "t2", by decide⟩) = none ∧
      mixedRegistry.RoundTrips := by
  refine ⟨by decide, by decide, by decide, ?_⟩
  have reachable : mixedRegistry.Reachable := .bind (.bind (.bind (.bind .fresh _) _) _) _
  exact reachable_roundTrips reachable (singlyLinked_of_disjoint (by decide))

/-- One session bound to two targets of its robot. -/
def doublyLinked : Registry :=
  ((fresh.bind (groupBind "x" (some "s1") "t1")).2.bind (groupBind "x" (some "s1") "t2")).2

/-- A foreign bind of the first target silences the session, but not after a restore. -/
theorem doublyLinked_not_roundTrips :
    ¬ ∀ registry : Registry, registry.Reachable → registry.RoundTrips := by
  intro always
  have reachable : doublyLinked.Reachable := .bind (.bind .fresh _) _
  obtain ⟨restored, applied, same⟩ := (always doublyLinked reachable).body fresh
  have session := (same [.bind (groupBind "y" none "t1")]).2.session (py "s1")
  rw [applyBody_bodyLocked reachable.invariant] at applied
  cases applied
  revert session
  decide

end Registry

end OctoChannel.Identity

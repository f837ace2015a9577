import OctoChannel.Identity.Durability
import OctoChannel.Identity.RoundTrip

/-! A registry beside the snapshot that the next start restores, and when no later operation
or start tells two of them apart. -/

namespace OctoChannel.Identity

open Foundation

namespace Registry

variable {first second registry : Registry}

/-- Alike registries that agree on what is left to write. -/
structure Twin (first second : Registry) : Prop extends Alike first second where
  dirty : first.dirty = second.dirty

theorem Twin.refl (registry : Registry) : registry.Twin registry where
  toAgree := .refl registry
  listings _ := rfl
  dirty := rfl

theorem Twin.symm (twin : first.Twin second) : second.Twin first where
  toAgree := twin.toAgree.symm
  listings key := (twin.listings key).symm
  dirty := twin.dirty.symm

theorem Twin.trans (left : first.Twin registry) (right : registry.Twin second) :
    first.Twin second where
  toAgree := left.toAgree.trans right.toAgree
  listings key := (left.listings key).trans (right.listings key)
  dirty := left.dirty.trans right.dirty

theorem Twin.bodyLocked (twin : first.Twin second) : first.bodyLocked = second.bodyLocked := by
  apply twin.toAgree.bodyLocked
  intro key
  rw [sessionTarget, sessionTarget, twin.listings]

private theorem Twin.dirty_bindLocked (twin : first.Twin second) (request : Request) :
    (first.bindLocked request).2.dirty = (second.bindLocked request).2.dirty := by
  have same := twin.dirty
  unfold Registry.bindLocked
  simp only [twin.sessions, twin.targets, twin.wires, twin.sessionConflicts, twin.targetConflicts]
  split_ifs
  · exact same
  · exact same
  · rfl
  · rfl
  · rfl
  · rfl
  · split
    · rfl
    · exact same
  · exact same
  · exact (dirty_claim request).trans (dirty_claim request).symm

theorem Twin.bind (twin : first.Twin second) (inv : first.Invariant) (inv' : second.Invariant)
    (args : BindArgs) : (first.bind args).2.Twin (second.bind args).2 where
  toAlike := (twin.toAlike.bind inv inv' args).2
  dirty := by
    unfold Registry.bind
    cases args.validate with
    | error error => exact twin.dirty
    | ok request => exact twin.dirty_bindLocked request

private theorem Twin.dirty_bindRoutes (twin : first.Twin second) (inv : first.Invariant)
    (inv' : second.Invariant) (robotId : PyStr) (plan : List PlannedRoute) :
    (first.bindRoutes robotId plan).2.dirty = (second.bindRoutes robotId plan).2.dirty := by
  induction plan generalizing first second with
  | nil => exact twin.dirty
  | cons route rest ih =>
    have same := (twin.toAlike.bind inv inv' (planArgs robotId route)).1
    have after := twin.bind inv inv' (planArgs robotId route)
    have next := inv.bind (planArgs robotId route)
    have next' := inv'.bind (planArgs robotId route)
    unfold Registry.bindRoutes
    rcases one : first.bind (planArgs robotId route) with ⟨result, left⟩
    rcases two : second.bind (planArgs robotId route) with ⟨result', right⟩
    rw [one, two] at same after
    rw [one] at next
    rw [two] at next'
    obtain rfl : result = result' := same
    rcases result with error | _ | _ | _ | _
    · exact after.dirty
    · exact ih after next next'
    · exact after.dirty
    · exact ih after next next'
    · exact after.dirty

theorem Twin.bindPlan (twin : first.Twin second) (inv : first.Invariant) (inv' : second.Invariant)
    (robotId : PyStr) (plan : List PlannedRoute) :
    (first.bindPlan robotId plan).2.Twin (second.bindPlan robotId plan).2 where
  toAlike := (twin.toAlike.bindPlan inv inv' robotId plan).2
  dirty := by
    have same := (twin.toAlike.bindRoutes inv inv' robotId plan).1
    have dirty := twin.dirty_bindRoutes inv inv' robotId plan
    rcases one : first.bindRoutes robotId plan with ⟨ending, left⟩
    rcases two : second.bindRoutes robotId plan with ⟨ending', right⟩
    rw [one, two] at same dirty
    obtain rfl : ending = ending' := same
    cases ending with
    | accepted => rwa [bindPlan_accepted one, bindPlan_accepted two]
    | raised error => rwa [bindPlan_raised one, bindPlan_raised two]
    | refused =>
      rw [bindPlan_refused inv one, bindPlan_refused inv' two]
      exact twin.dirty

theorem Twin.forgetTarget (twin : first.Twin second) (inv : first.Invariant)
    (inv' : second.Invariant) (args : ForgetArgs) (write : WriteEnd) :
    (first.forgetTarget args write).2.Twin (second.forgetTarget args write).2 where
  toAlike := (twin.toAlike.forgetTarget inv inv' args write).2
  dirty := by
    unfold Registry.forgetTarget
    split
    · exact twin.dirty
    · rename_i robotId target valid
      rw [twin.toAlike.forgettable]
      split
      · cases write with
        | durable => rfl
        | raised error => exact twin.dirty
        | failed =>
          dsimp only
          rw [applyBody_bodyLocked_ok inv, applyBody_bodyLocked_ok inv']
          exact twin.dirty
      · exact twin.dirty

theorem Twin.flush (twin : first.Twin second) (force : Bool) (write : WriteEnd) :
    (first.flush force write).1 = (second.flush force write).1 ∧
      (first.flush force write).2.Twin (second.flush force write).2 := by
  unfold Registry.flush
  rw [twin.dirty]
  split
  · exact ⟨rfl, twin⟩
  · cases write with
    | durable => exact ⟨rfl, { twin.toAlike with dirty := rfl }⟩
    | failed => exact ⟨rfl, { twin.toAlike with dirty := rfl }⟩
    | raised error => exact ⟨rfl, { twin.toAlike with dirty := rfl }⟩

/-- Rolling back restores a twin, when every session is linked to one target at most. -/
theorem SinglyLinked.twin_restored (single : registry.SinglyLinked) (inv : registry.Invariant)
    (before : Registry) :
    ({ before.restored registry with dirty := registry.dirty } : Registry).Twin registry :=
  { single.alike_restored inv before with dirty := rfl }

/-- A registry, and the snapshot that the next start restores. -/
structure Desk where
  registry : Registry
  stored : Option Json

/-- How a write ends, and whether the new file is in place by then. -/
structure Landing where
  ending : WriteEnd
  placed : Bool

/-- Everything that can come after a call: the operations of the registry, its lookups
between them, and new starts, one of them in the middle of a write. -/
inductive Later where
  | bind (args : BindArgs)
  | bindPlan (robotId : PyStr) (plan : List PlannedRoute)
  | save (operation : Save) (landing : Landing)
  | crash
  | crashIn (operation : Save) (placed : Bool)

/-- What the operation returns. -/
def Save.answer (registry : Registry) (write : WriteEnd) : Save → Except PyError Bool
  | .flush force => (registry.flush force write).1
  | .forgetTarget args => (registry.forgetTarget args write).1

namespace Desk

variable (desk : Desk)

/-- What the next start restores after the operation wrote, or tried to. -/
def storedAfter (operation : Save) (placed : Bool) : Option Json :=
  match operation.body? desk.registry with
  | none => desk.stored
  | some body => if placed then some body.sortKeys else desk.stored

/-- A new start from what is stored. -/
def restart (stored : Option Json) : Desk where
  registry := match stored with
    | none => fresh
    | some body => (fresh.applyBody body).1
  stored

def perform : Later → Option Answer × Desk
  | .bind args =>
    (some (.bind (desk.registry.bind args).1), ⟨(desk.registry.bind args).2, desk.stored⟩)
  | .bindPlan robotId plan =>
    (some (.done (desk.registry.bindPlan robotId plan).1),
      ⟨(desk.registry.bindPlan robotId plan).2, desk.stored⟩)
  | .save operation landing =>
    (some (.done (operation.answer desk.registry landing.ending)),
      ⟨operation.finish desk.registry landing.ending, desk.storedAfter operation landing.placed⟩)
  | .crash => (none, restart desk.stored)
  | .crashIn operation placed => (none, restart (desk.storedAfter operation placed))

def performAll (desk : Desk) : List Later → List (Option Answer) × Desk
  | [] => ([], desk)
  | later :: rest =>
    ((desk.perform later).1 :: ((desk.perform later).2.performAll rest).1,
      ((desk.perform later).2.performAll rest).2)

/-- The desks answer every sequence of operations alike, and every lookup after it. -/
def Indistinguishable (first second : Desk) : Prop :=
  ∀ laters, (first.performAll laters).1 = (second.performAll laters).1 ∧
    (first.performAll laters).2.registry.SameLookups (second.performAll laters).2.registry

/-- The registry is sound, and what is stored is the snapshot of a sound one. -/
structure Sound (desk : Desk) : Prop where
  invariant : desk.registry.Invariant
  stored : ∀ body, desk.stored = some body →
    ∃ source : Registry, source.Invariant ∧ body = source.bodyLocked.sortKeys

/-- Desks that no later operation can tell apart. -/
structure Twin (first second : Desk) : Prop where
  registry : first.registry.Twin second.registry
  stored : first.stored = second.stored

variable {desk} {first second : Desk}

theorem storedAfter_of_none {operation : Save} (named : operation.body? desk.registry = none)
    (placed : Bool) : desk.storedAfter operation placed = desk.stored := by
  rw [Desk.storedAfter, named]

theorem storedAfter_of_some {operation : Save} {body : Json}
    (named : operation.body? desk.registry = some body) (placed : Bool) :
    desk.storedAfter operation placed = if placed then some body.sortKeys else desk.stored := by
  rw [Desk.storedAfter, named]

theorem Sound.storedAfter (sound : desk.Sound) (operation : Save) (placed : Bool) {body : Json}
    (found : desk.storedAfter operation placed = some body) :
    ∃ source : Registry, source.Invariant ∧ body = source.bodyLocked.sortKeys := by
  unfold Desk.storedAfter at found
  cases named : operation.body? desk.registry with
  | none =>
    rw [named] at found
    exact sound.stored body found
  | some written =>
    rw [named] at found
    obtain ⟨source, inv, rfl⟩ := Save.body?_source sound.invariant named
    dsimp only at found
    split at found
    · cases found
      exact ⟨source, inv, rfl⟩
    · exact sound.stored body found

theorem sound_restart {stored : Option Json} (own : ∀ body, stored = some body →
    ∃ source : Registry, source.Invariant ∧ body = source.bodyLocked.sortKeys) :
    (restart stored).Sound := by
  refine ⟨?_, own⟩
  cases stored with
  | none => exact invariant_fresh
  | some body =>
    obtain ⟨source, inv, rfl⟩ := own body rfl
    rw [restart]
    dsimp only
    rw [applyBody_sorted_ok inv]
    exact inv.restored fresh

theorem Sound.perform (sound : desk.Sound) (later : Later) : (desk.perform later).2.Sound := by
  cases later with
  | bind args => exact ⟨sound.invariant.bind args, sound.stored⟩
  | bindPlan robotId plan => exact ⟨sound.invariant.bindPlan robotId plan, sound.stored⟩
  | save operation landing =>
    exact ⟨sound.invariant.finish operation _, fun body => sound.storedAfter operation _⟩
  | crash => exact sound_restart sound.stored
  | crashIn operation placed => exact sound_restart fun body => sound.storedAfter operation placed

theorem Twin.body? (twin : first.Twin second) (operation : Save) :
    operation.body? first.registry = operation.body? second.registry := by
  cases operation with
  | flush force => rw [Save.body?, Save.body?, twin.registry.dirty, twin.registry.bodyLocked]
  | forgetTarget args =>
    rw [Save.body?, Save.body?]
    cases args.validate with
    | error error => rfl
    | ok named =>
      obtain ⟨robotId, target⟩ := named
      have dropped : (first.registry.forgotten robotId target).Twin
          (second.registry.forgotten robotId target) :=
        { twin.registry.toAlike.forgotten robotId target with dirty := twin.registry.dirty }
      dsimp only
      rw [twin.registry.toAlike.forgettable, dropped.bodyLocked]

theorem Twin.storedAfter (twin : first.Twin second) (operation : Save) (placed : Bool) :
    first.storedAfter operation placed = second.storedAfter operation placed := by
  rw [Desk.storedAfter, Desk.storedAfter, twin.body? operation, twin.stored]

/-- The bisimulation step. -/
theorem Twin.perform (twin : first.Twin second) (sound : first.Sound) (sound' : second.Sound)
    (later : Later) :
    (first.perform later).1 = (second.perform later).1 ∧
      (first.perform later).2.Twin (second.perform later).2 := by
  have inv := sound.invariant
  have inv' := sound'.invariant
  cases later with
  | bind args =>
    have same := (twin.registry.toAlike.bind inv inv' args).1
    exact ⟨congrArg (fun answer => some (Answer.bind answer)) same,
      twin.registry.bind inv inv' args, twin.stored⟩
  | bindPlan robotId plan =>
    have same := (twin.registry.toAlike.bindPlan inv inv' robotId plan).1
    exact ⟨congrArg (fun answer => some (Answer.done answer)) same,
      twin.registry.bindPlan inv inv' robotId plan, twin.stored⟩
  | save operation landing =>
    have stored := twin.storedAfter operation landing.placed
    cases operation with
    | flush force =>
      obtain ⟨same, after⟩ := twin.registry.flush force landing.ending
      exact ⟨congrArg (fun answer => some (Answer.done answer)) same, after, stored⟩
    | forgetTarget args =>
      have same := (twin.registry.toAlike.forgetTarget inv inv' args landing.ending).1
      exact ⟨congrArg (fun answer => some (Answer.done answer)) same,
        twin.registry.forgetTarget inv inv' args landing.ending, stored⟩
  | crash =>
    refine ⟨rfl, ?_⟩
    rw [Desk.perform, Desk.perform, twin.stored]
    exact ⟨.refl _, rfl⟩
  | crashIn operation placed =>
    refine ⟨rfl, ?_⟩
    rw [Desk.perform, Desk.perform, twin.storedAfter operation placed]
    exact ⟨.refl _, rfl⟩

/-- The bisimulation along a sequence of operations. -/
theorem Twin.performAll (twin : first.Twin second) (sound : first.Sound) (sound' : second.Sound)
    (laters : List Later) :
    (first.performAll laters).1 = (second.performAll laters).1 ∧
      (first.performAll laters).2.Twin (second.performAll laters).2 := by
  induction laters generalizing first second with
  | nil => exact ⟨rfl, twin⟩
  | cons later rest ih =>
    obtain ⟨same, after⟩ := twin.perform sound sound' later
    obtain ⟨answers, ended⟩ := ih after (sound.perform later) (sound'.perform later)
    exact ⟨List.cons_eq_cons.mpr ⟨same, answers⟩, ended⟩

/-- Twins stay indistinguishable for every sequence of operations. -/
theorem Twin.indistinguishable (twin : first.Twin second) (sound : first.Sound)
    (sound' : second.Sound) : first.Indistinguishable second := by
  intro laters
  obtain ⟨answers, ended⟩ := twin.performAll sound sound' laters
  exact ⟨answers, ended.registry.toAlike.sameLookups⟩

end Desk

end Registry

end OctoChannel.Identity

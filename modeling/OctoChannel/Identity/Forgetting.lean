import OctoChannel.Identity.Bounds
import OctoChannel.Identity.Desks

namespace OctoChannel.Identity

open Foundation

namespace Registry

variable {first second registry : Registry}

section Worlds

variable (runtime : Json.Runtime) (sha256 : Bytes → Bytes)

/-- What the next start restores from the files. -/
def restorable (files : Files) : Option Json :=
  Reading.chosen? (readStateDocument runtime sha256 files.current)
    (readStateDocument runtime sha256 files.backup)

def World.desk (world : World) : Desk := ⟨world.registry, restorable runtime sha256 world.files⟩

/-- How a write with this fault ends; only closing the directory fails behind the new file. -/
def landing (registry : Registry) (body : Json) (fault : Fault) (files : Files) : Landing :=
  let ending := (writeSnapshot runtime sha256 registry body fault files).1
  ⟨ending, ending = .durable || (ending = .failed && fault = .close)⟩

variable {runtime sha256} {files : Files} {body : Json} {world : World}

theorem restorable_of_holds {file : FileContent} (found : files.newest = some file)
    (holds : Holds runtime sha256 body file) :
    restorable runtime sha256 files = some body.sortKeys := chosen_of_holds found holds

theorem restorable_of_absent (absent : files.newest = none) :
    restorable runtime sha256 files = none := by
  rw [Generations.newest, Option.or_eq_none_iff] at absent
  rw [restorable, absent.1, absent.2]
  rfl

/-- The newest file alone decides what a start restores. -/
theorem World.Consistent.restorable_eq (consistent : world.Consistent runtime sha256)
    (same : files.newest = world.files.newest) :
    restorable runtime sha256 files = restorable runtime sha256 world.files := by
  cases found : world.files.newest with
  | none => rw [restorable_of_absent found, restorable_of_absent (same.trans found)]
  | some file =>
    have stored := consistent.ledger
    rw [found] at stored
    obtain ⟨body, -, holds⟩ := stored
    rw [restorable_of_holds found holds, restorable_of_holds (same.trans found) holds]

theorem World.Consistent.sound (consistent : world.Consistent runtime sha256) :
    (world.desk runtime sha256).Sound := by
  refine ⟨consistent.invariant, ?_⟩
  intro body stored
  cases found : world.files.newest with
  | none =>
    rw [World.desk, restorable_of_absent found] at stored
    cases stored
  | some file =>
    have counted := consistent.ledger
    rw [found] at counted
    obtain ⟨written, -, holds⟩ := counted
    rw [World.desk, restorable_of_holds found holds] at stored
    obtain ⟨source, inv, rfl, -⟩ := holds
    cases stored
    exact ⟨source, inv, rfl⟩

private theorem writeStateDocument_landing (body : Json) (fault : Fault) (files : Files) :
    let (ending, after) := writeStateDocument runtime sha256 body fault files
    if ending = .durable ∨ ending = .failed ∧ fault = .close then
      ∃ content, documentBytes runtime sha256 body = .ok content ∧
        after.newest = some (.bytes content)
    else after.newest = files.newest := by
  unfold writeStateDocument
  cases checksum runtime sha256 body with
  | error error => exact (if_neg (by simp)).mpr rfl
  | ok sum =>
    dsimp only
    by_cases created : fault = .create
    · rw [if_pos created]
      exact (if_neg (by simp [created])).mpr rfl
    · rw [if_neg created]
      cases documentBytes runtime sha256 body with
      | error error => exact (if_neg (by simp)).mpr rfl
      | ok content =>
        cases fault with
        | create => exact absurd rfl created
        | replace => exact (if_neg (by simp)).mpr rfl
        | none | rename | close => exact (if_pos (by simp)).mpr ⟨content, rfl, rfl⟩

/-- A write puts its document in place, or leaves what a start restores as it was. -/
private theorem newest_writeSnapshot (registry : Registry) (body : Json) (fault : Fault)
    (files : Files) :
    let after := (writeSnapshot runtime sha256 registry body fault files).2
    if (landing runtime sha256 registry body fault files).placed then
      ∃ content, documentBytes runtime sha256 body = .ok content ∧
        after.newest = some (.bytes content)
    else after.newest = files.newest := by
  simp only [landing, Bool.or_eq_true, Bool.and_eq_true, decide_eq_true_eq]
  unfold writeSnapshot
  by_cases blocked : (registry.rotates files && fault = .rename) = true
  · rw [if_pos blocked]
    have renamed : fault = .rename := by
      rw [Bool.and_eq_true, decide_eq_true_iff] at blocked
      exact blocked.2
    exact (if_neg (by simp [renamed])).mpr rfl
  · rw [if_neg blocked, ← newest_rotated registry files]
    exact writeStateDocument_landing body fault _

/-- What a start restores after the write. -/
theorem World.Consistent.restorable_writeSnapshot (consistent : world.Consistent runtime sha256)
    {source : Registry} (inv : source.Invariant) (fault : Fault) :
    restorable runtime sha256
        (writeSnapshot runtime sha256 registry source.bodyLocked fault world.files).2 =
      if (landing runtime sha256 registry source.bodyLocked fault world.files).placed then
        some source.bodyLocked.sortKeys
      else restorable runtime sha256 world.files := by
  have after := @newest_writeSnapshot runtime sha256 registry source.bodyLocked fault world.files
  dsimp only at after
  split at after
  · rename_i placed
    obtain ⟨content, written, newest⟩ := after
    rw [if_pos placed]
    exact restorable_of_holds newest (holds_snapshot inv written)
  · rename_i kept
    rw [if_neg kept]
    exact consistent.restorable_eq after

private theorem Save.finish_of_none {operation : Save} (unwritten : operation.body? registry = none)
    (write : WriteEnd) : operation.finish registry write = registry := by
  cases operation with
  | flush force =>
    rw [Save.body?] at unwritten
    split at unwritten
    · rename_i clean
      rw [Save.finish]
      unfold Registry.flush
      rw [if_pos clean]
    · cases unwritten
  | forgetTarget args =>
    rw [Save.body?] at unwritten
    rw [Save.finish, Registry.forgetTarget]
    cases valid : args.validate with
    | error error => rfl
    | ok named =>
      obtain ⟨robotId, target⟩ := named
      rw [valid] at unwritten
      dsimp only at unwritten ⊢
      split at unwritten
      · cases unwritten
      · rename_i refused
        rw [if_neg refused]

/-- A start from the files is a start from what they restore. -/
theorem World.Consistent.start_twin (consistent : world.Consistent runtime sha256) :
    (start runtime sha256 world.files).1.Twin
      (Desk.restart (restorable runtime sha256 world.files)).registry := by
  cases found : world.files.newest with
  | none =>
    rw [start_of_absent found, restorable_of_absent found]
    exact .refl fresh
  | some file =>
    have counted := consistent.ledger
    rw [found] at counted
    obtain ⟨body, -, holds⟩ := counted
    obtain ⟨fallback, loaded⟩ := load_of_chosen (chosen_of_holds found holds) fresh
    rw [restorable_of_holds found holds, start, loaded, Desk.restart]
    obtain ⟨source, inv, rfl, -⟩ := holds
    dsimp only
    rw [applyBody_sorted_ok inv, applyBody_sorted_ok inv]
    refine { toAlike := ?_, dirty := ?_ }
    · exact (Twin.refl source).toAlike.restored inv inv _ _
    · rw [dirty_restored inv, dirty_restored inv]

private theorem World.Consistent.restorable_breakOff (consistent : world.Consistent runtime sha256)
    (operation : Save) (cut : Cut) :
    ∃ placed, restorable runtime sha256 (world.breakOff runtime sha256 operation cut).files =
      (world.desk runtime sha256).storedAfter operation placed := by
  unfold World.breakOff
  cases named : operation.body? world.registry with
  | none =>
    have kept := @Desk.storedAfter_of_none (world.desk runtime sha256) _ named false
    exact ⟨false, kept.symm⟩
  | some body =>
    have after := @Desk.storedAfter_of_some (world.desk runtime sha256) _ _ named
    obtain ⟨source, inv, rfl⟩ := Save.body?_source consistent.invariant named
    rcases @cutOff_newest runtime sha256 world.registry source.bodyLocked world.files cut with
      kept | ⟨content, written, replaced⟩
    · exact ⟨false, (consistent.restorable_eq kept).trans (after false).symm⟩
    · exact ⟨true, (restorable_of_holds replaced (holds_snapshot inv written)).trans
        (after true).symm⟩

/-- Whatever happens in a world is one operation of its desk. -/
private theorem World.Consistent.desk_step (consistent : world.Consistent runtime sha256)
    (event : Event) :
    ∃ later, ((world.step runtime sha256 event).desk runtime sha256).Twin
      ((world.desk runtime sha256).perform later).2 := by
  cases event with
  | bind args => exact ⟨.bind args, .refl _, rfl⟩
  | bindPlan robotId plan => exact ⟨.bindPlan robotId plan, .refl _, rfl⟩
  | save operation fault =>
    rw [World.step, World.save]
    cases named : operation.body? world.registry with
    | none =>
      refine ⟨.save operation ⟨.durable, false⟩, ?_, ?_⟩
      · change world.registry.Twin (operation.finish world.registry .durable)
        rw [Save.finish_of_none named]
        exact .refl _
      · exact (Desk.storedAfter_of_none named false).symm
    | some body =>
      refine ⟨.save operation (landing runtime sha256 world.registry body fault world.files),
        .refl _, ?_⟩
      obtain ⟨source, inv, rfl⟩ := Save.body?_source consistent.invariant named
      have after := @Desk.storedAfter_of_some (world.desk runtime sha256) _ _ named
        (landing runtime sha256 world.registry source.bodyLocked fault world.files).placed
      exact (consistent.restorable_writeSnapshot inv fault).trans after.symm
  | crash => exact ⟨.crash, consistent.start_twin, rfl⟩
  | crashIn operation cut =>
    obtain ⟨placed, after⟩ := consistent.restorable_breakOff operation cut
    have started := (consistent.breakOff operation cut).start_twin
    refine ⟨.crashIn operation placed, ?_, after⟩
    rw [after] at started
    exact started

/-- A target is gone, with the sessions that were linked to it and to no other target. -/
structure Removed (robotId : RobotId) (target : TargetKey) (old new : Registry) : Prop where
  targets : new.targetRoutes = old.targetRoutes.erase target
  types : new.targetChannelTypes = old.targetChannelTypes.erase target
  wires : new.targetWireIds = old.targetWireIds.erase target
  links : ∀ other, new.linked other = if other = target then ∅ else old.linked other
  index : ∀ chatId holder, holder ∈ new.holders chatId ↔
    holder ∈ old.holders chatId ∧ ¬ (chatId = target.2 ∧ holder = (target.1, robotId))
  goneSessions : ∀ key ∈ old.linked target, (∀ other, key ∈ old.linked other → other = target) →
    new.sessionRoutes.get? key = none
  keptSessions : ∀ key, (key ∈ old.linked target → ∃ other, other ≠ target ∧ key ∈ old.linked other) →
    new.sessionRoutes.get? key = old.sessionRoutes.get? key
  sessionConflicts : new.sessionConflicts = old.sessionConflicts
  targetConflicts : new.targetConflicts = old.targetConflicts

theorem listings_erase_eq_nil {target : TargetKey} {key : SessionKey} :
    Links.listings (registry.targetSessions.erase target) key = [] ↔
      ∀ other, key ∈ registry.linked other → other = target := by
  rw [List.eq_nil_iff_forall_not_mem]
  apply forall_congr'
  intro other
  rw [Links.mem_listings_iff, Links.members_erase]
  by_cases same : target = other
  · simp [same]
  · rw [if_neg same]
    exact ⟨fun absent link => absurd link absent, fun only link => same (only link).symm⟩

private theorem removed_forgotten (registry : Registry) (robotId : RobotId) (target : TargetKey) :
    Removed robotId target registry (registry.forgotten robotId target) where
  targets := rfl
  types := rfl
  wires := rfl
  sessionConflicts := rfl
  targetConflicts := rfl
  links other := by
    rw [linked_forgotten]
    by_cases same : other = target
    · rw [if_pos same, if_pos same.symm]
    · rw [if_neg same, if_neg (Ne.symm same)]
  index chatId holder := by
    have held := @holders_releaseHolder registry (target.1, robotId) target.2 chatId
    change holder ∈ ((registry.releaseHolder (target.1, robotId) target.2).get? chatId).getD ∅ ↔ _
    rw [held]
    by_cases same : target.2 = chatId
    · rw [if_pos same, Finset.mem_erase, same]
      tauto
    · rw [if_neg same]
      exact (and_iff_left fun gone => same gone.1.symm).symm
  goneSessions key link only := by
    have orphan : registry.orphaned target key = true := by
      rw [orphaned, decide_eq_true_iff]
      exact ⟨link, listings_erase_eq_nil.mpr only⟩
    change (registry.sessionRoutes.filterKeys fun key => !registry.orphaned target key).get? key = _
    rw [Dict.get?_filterKeys, orphan]
    rfl
  keptSessions key held := by
    have safe : registry.orphaned target key = false := by
      rw [orphaned, decide_eq_false_iff_not]
      rintro ⟨link, unlisted⟩
      obtain ⟨other, different, also⟩ := held link
      exact different (listings_erase_eq_nil.mp unlisted other also)
    change (registry.sessionRoutes.filterKeys fun key => !registry.orphaned target key).get? key = _
    rw [Dict.get?_filterKeys, safe]
    rfl

variable (runtime sha256) in
/-- What `forget_target` returns, or raises. -/
def World.forgetAnswer (world : World) (args : ForgetArgs) (fault : Fault) : Except PyError Bool :=
  match (Save.forgetTarget args).body? world.registry with
  | none => (world.registry.forgetTarget args .durable).1
  | some body => (world.registry.forgetTarget args
      (writeSnapshot runtime sha256 world.registry body fault world.files).1).1

variable (runtime sha256) in
/-- The next start finds these routes, in this order, the links of every target, and for each
session the target that its record names. -/
structure World.Durable (world : World) : Prop where
  agree : (start runtime sha256 world.files).1.Agree world.registry
  links : ∀ target, (start runtime sha256 world.files).1.linked target = world.registry.linked target
  sessionTarget : ∀ key,
    (start runtime sha256 world.files).1.sessionTarget key = world.registry.sessionTarget key

variable (runtime sha256) in
/-- `forget_target` is exact where it returns `True`, and leaves no trace elsewhere. -/
structure World.Forgets (world : World) (args : ForgetArgs) (fault : Fault) : Prop where
  exact : world.forgetAnswer runtime sha256 args fault = .ok true →
    ∃ robotId target, args.validate = .ok (robotId, target) ∧
      target ∉ world.registry.targetConflicts ∧
      world.registry.targetRoutes.get? target = some robotId ∧
      (∀ key ∈ world.registry.linked target, key ∉ world.registry.sessionConflicts) ∧
      Removed robotId target world.registry
        (world.save runtime sha256 (.forgetTarget args) fault).registry ∧
      (world.save runtime sha256 (.forgetTarget args) fault).Durable runtime sha256
  atomic : world.forgetAnswer runtime sha256 args fault ≠ .ok true →
    (world.desk runtime sha256).Indistinguishable
      ((world.save runtime sha256 (.forgetTarget args) fault).desk runtime sha256)

/-- A file operation of the write fails. -/
def World.Interrupted (world : World) (fault : Fault) : Prop :=
  fault ≠ .none ∧ (fault = .rename → world.registry.rotates world.files = true)

/-- Whatever is taken out can be written as UTF-8, the directory is closed without a fault, and
the snapshot that counts afterwards, the one written or the one rolled back to, is of sessions
with one target at most. -/
def World.Forgivable (world : World) (args : ForgetArgs) (fault : Fault) : Prop :=
  ∀ robotId target, args.validate = .ok (robotId, target) →
    world.registry.forgettable robotId target = true →
      (world.registry.forgotten robotId target).Printable ∧ fault ≠ .close ∧
        (world.Interrupted fault → world.registry.SinglyLinked) ∧
        (¬ world.Interrupted fault → (world.registry.forgotten robotId target).SinglyLinked)

theorem checksum_of_document {content : Bytes}
    (written : documentBytes runtime sha256 body = .ok content) :
    ∃ sum, checksum runtime sha256 body = .ok sum := by
  unfold documentBytes at written
  cases summed : checksum runtime sha256 body with
  | error error =>
    rw [summed] at written
    cases written
  | ok sum => exact ⟨sum, rfl⟩

private theorem writeSnapshot_durable {content : Bytes} {fault : Fault}
    (written : documentBytes runtime sha256 body = .ok content)
    (calm : ¬ world.Interrupted fault) (open' : fault ≠ .close) :
    (writeSnapshot runtime sha256 world.registry body fault world.files).1 = .durable := by
  obtain ⟨sum, summed⟩ := checksum_of_document written
  have free : (world.registry.rotates world.files && fault = .rename) = false := by
    by_contra blocked
    rw [Bool.not_eq_false, Bool.and_eq_true, decide_eq_true_iff] at blocked
    exact calm ⟨by rw [blocked.2]; simp, fun _ => blocked.1⟩
  rw [writeSnapshot, free, if_neg Bool.false_ne_true, writeStateDocument, summed]
  cases fault with
  | none | rename =>
    dsimp only
    rw [if_neg (by simp), written]
  | create => exact absurd ⟨by simp, by simp⟩ calm
  | replace => exact absurd ⟨by simp, by simp⟩ calm
  | close => exact absurd rfl open'

theorem writeSnapshot_failed {content : Bytes} {fault : Fault}
    (written : documentBytes runtime sha256 body = .ok content)
    (interrupted : world.Interrupted fault) :
    (writeSnapshot runtime sha256 world.registry body fault world.files).1 = .failed := by
  obtain ⟨sum, summed⟩ := checksum_of_document written
  rw [writeSnapshot]
  split
  · rfl
  · rename_i free
    rw [writeStateDocument, summed]
    cases fault with
    | none => exact absurd rfl interrupted.1
    | rename =>
      rw [interrupted.2 rfl] at free
      exact absurd rfl free
    | create => rfl
    | replace | close =>
      dsimp only
      rw [if_neg (by simp), written]

theorem forgetTarget_of_forgettable {args : ForgetArgs} {robotId : RobotId} {target : TargetKey}
    (valid : args.validate = .ok (robotId, target))
    (guard : registry.forgettable robotId target = true) :
    (Save.forgetTarget args).body? registry = some (registry.forgotten robotId target).bodyLocked ∧
      registry.forgetTarget args .durable =
        (.ok true, (registry.forgotten robotId target).written) ∧
      (registry.Invariant → registry.forgetTarget args .failed =
        (.error (.runtimeError "Octo route deletion could not be persisted"),
          { (registry.forgotten robotId target).restored registry with
            dirty := registry.dirty })) := by
  refine ⟨?_, ?_, ?_⟩
  · rw [Save.body?, valid]
    exact if_pos guard
  · rw [Registry.forgetTarget, valid]
    exact if_pos guard
  · intro inv
    rw [Registry.forgetTarget, valid]
    dsimp only
    rw [if_pos guard, applyBody_bodyLocked_ok inv]

/-- A call that gets no further than its checks changes nothing and removes nothing. -/
private theorem forgetTarget_of_unwritten {args : ForgetArgs}
    (unwritten : (Save.forgetTarget args).body? registry = none) (write : WriteEnd) :
    (registry.forgetTarget args write).1 ≠ .ok true := by
  rw [Save.body?] at unwritten
  rw [Registry.forgetTarget]
  cases valid : args.validate with
  | error error => simp
  | ok named =>
    obtain ⟨robotId, target⟩ := named
    rw [valid] at unwritten
    dsimp only at unwritten ⊢
    split at unwritten
    · cases unwritten
    · rename_i refused
      rw [if_neg refused]
      simp

private theorem World.Consistent.durable_save (consistent : world.Consistent runtime sha256)
    {operation : Save} {source : Registry} (inv : source.Invariant) {fault : Fault}
    (named : operation.body? world.registry = some source.bodyLocked)
    (placed : (landing runtime sha256 world.registry source.bodyLocked fault world.files).placed =
      true)
    (single : source.SinglyLinked)
    (same : source.Alike (world.save runtime sha256 operation fault).registry) :
    (world.save runtime sha256 operation fault).Durable runtime sha256 := by
  have restores : restorable runtime sha256 (world.save runtime sha256 operation fault).files =
      some source.bodyLocked.sortKeys := by
    have after := @World.Consistent.restorable_writeSnapshot world.registry _ _ _ consistent
      source inv fault
    rw [if_pos placed] at after
    rw [World.save, named]
    exact after
  have started := (consistent.save operation fault).start_twin
  rw [restores, Desk.restart] at started
  dsimp only at started
  rw [applyBody_sorted_ok inv] at started
  have agree := (started.toAgree.trans (agree_restored inv fresh)).trans same.toAgree
  refine ⟨agree, fun target => ?_, fun key => ?_⟩
  · rw [started.toAlike.linked, linked_restored inv single, same.linked]
  · rw [sessionTarget, started.listings, ← sessionTarget, sessionTarget_restored inv,
      sessionTarget, same.listings, ← sessionTarget]

private theorem valid_of_body {args : ForgetArgs} {body : Json}
    (named : (Save.forgetTarget args).body? registry = some body) :
    ∃ robotId target, args.validate = .ok (robotId, target) ∧
      registry.forgettable robotId target = true := by
  rw [Save.body?] at named
  split at named
  · cases named
  · rename_i robotId target valid
    split at named
    · rename_i guard
      exact ⟨robotId, target, valid, guard⟩
    · cases named

/-- A call that writes nothing leaves the desk alone. -/
private theorem World.Consistent.forgets_unwritten (consistent : world.Consistent runtime sha256)
    {args : ForgetArgs} (named : (Save.forgetTarget args).body? world.registry = none)
    (fault : Fault) : world.Forgets runtime sha256 args fault := by
  have answer : world.forgetAnswer runtime sha256 args fault ≠ .ok true := by
    rw [World.forgetAnswer, named]
    exact forgetTarget_of_unwritten named .durable
  refine ⟨fun done => absurd done answer, fun _ laters => ?_⟩
  rw [World.save, named]
  exact (Desk.Twin.mk (.refl _) rfl).indistinguishable consistent.sound consistent.sound laters

/-- A write that fails before the rename is undone. -/
private theorem World.Consistent.forgets_interrupted (consistent : world.Consistent runtime sha256)
    {args : ForgetArgs} {fault : Fault} {robotId : RobotId} {target : TargetKey}
    (valid : args.validate = .ok (robotId, target))
    (guard : world.registry.forgettable robotId target = true)
    (printable : (world.registry.forgotten robotId target).Printable) (closed : fault ≠ .close)
    (interrupted : world.Interrupted fault) (single : world.registry.SinglyLinked) :
    world.Forgets runtime sha256 args fault := by
  have inv := consistent.invariant
  obtain ⟨named, -, failed⟩ := forgetTarget_of_forgettable valid guard
  have dropped := inv.forgotten (forgettable_iff.mp guard).2.1 (forgettable_iff.mp guard).1
  obtain ⟨content, document⟩ := documentBytes_bodyLocked runtime sha256 dropped printable
  have ending := writeSnapshot_failed document interrupted
  have answer : world.forgetAnswer runtime sha256 args fault ≠ .ok true := by
    rw [World.forgetAnswer, named]
    dsimp only
    rw [ending, failed inv]
    simp
  refine ⟨fun done => absurd done answer, fun _ => ?_⟩
  apply Desk.Twin.indistinguishable _ consistent.sound (consistent.save _ fault).sound
  refine ⟨?_, ?_⟩
  · change world.registry.Twin (world.save runtime sha256 (.forgetTarget args) fault).registry
    rw [World.save, named]
    dsimp only
    rw [Save.finish, ending, failed inv]
    exact (single.twin_restored inv _).symm
  · have kept := @World.Consistent.restorable_writeSnapshot world.registry _ _ _ consistent _
      dropped fault
    rw [if_neg (by simp [landing, ending, closed])] at kept
    change restorable runtime sha256 world.files =
      restorable runtime sha256 (world.save runtime sha256 (.forgetTarget args) fault).files
    rw [World.save, named]
    exact kept.symm

/-- A write that goes through removes the target for good. -/
private theorem World.Consistent.forgets_written (consistent : world.Consistent runtime sha256)
    {args : ForgetArgs} {fault : Fault} {robotId : RobotId} {target : TargetKey}
    (valid : args.validate = .ok (robotId, target))
    (guard : world.registry.forgettable robotId target = true)
    (printable : (world.registry.forgotten robotId target).Printable) (closed : fault ≠ .close)
    (uninterrupted : ¬ world.Interrupted fault)
    (apart : (world.registry.forgotten robotId target).SinglyLinked) :
    world.Forgets runtime sha256 args fault := by
  obtain ⟨named, durable, -⟩ := forgetTarget_of_forgettable valid guard
  obtain ⟨open', routed, unsilenced⟩ := forgettable_iff.mp guard
  have dropped := consistent.invariant.forgotten routed open'
  obtain ⟨content, document⟩ := documentBytes_bodyLocked runtime sha256 dropped printable
  have ending := writeSnapshot_durable document uninterrupted closed
  have answer : world.forgetAnswer runtime sha256 args fault = .ok true := by
    rw [World.forgetAnswer, named]
    dsimp only
    rw [ending, durable]
  have after : (world.save runtime sha256 (.forgetTarget args) fault).registry =
      (world.registry.forgotten robotId target).written := by
    rw [World.save, named]
    dsimp only
    rw [Save.finish, ending, durable]
  refine ⟨fun _ => ?_, fun undone => absurd answer undone⟩
  refine ⟨robotId, target, valid, open', routed, unsilenced, ?_, ?_⟩
  · rw [after]
    exact { removed_forgotten world.registry robotId target with }
  · apply consistent.durable_save dropped named
    · simp [landing, ending]
    · exact apart
    · rw [after]
      exact { Agree.refl _ with listings := fun _ => rfl }

theorem World.Consistent.forgets (consistent : world.Consistent runtime sha256)
    {args : ForgetArgs} {fault : Fault} (forgivable : world.Forgivable args fault) :
    world.Forgets runtime sha256 args fault := by
  cases named : (Save.forgetTarget args).body? world.registry with
  | none => exact consistent.forgets_unwritten named fault
  | some body =>
    obtain ⟨robotId, target, valid, guard⟩ := valid_of_body named
    obtain ⟨printable, closed, single, apart⟩ := forgivable robotId target valid guard
    by_cases interrupted : world.Interrupted fault
    · exact consistent.forgets_interrupted valid guard printable closed interrupted
        (single interrupted)
    · exact consistent.forgets_written valid guard printable closed interrupted
        (apart interrupted)

/-- Whatever happens in a world from now on is a sequence of operations of its desk. -/
private theorem World.Consistent.desk_steps (consistent : world.Consistent runtime sha256)
    (events : List Event) :
    ∃ laters, ((events.foldl (World.step runtime sha256) world).desk runtime sha256).Twin
      ((world.desk runtime sha256).performAll laters).2 := by
  induction events generalizing world with
  | nil => exact ⟨[], .refl _, rfl⟩
  | cons event rest ih =>
    obtain ⟨later, stepped⟩ := consistent.desk_step event
    obtain ⟨laters, ended⟩ := ih (consistent.step event)
    obtain ⟨-, after⟩ := stepped.performAll (consistent.step event).sound
      (consistent.sound.perform later) laters
    exact ⟨later :: laters, ended.registry.trans after.registry, ended.stored.trans after.stored⟩

/-- In every world that is reached, a call meets its contract when what it leaves can be
written and restored; and whatever happens in a world from then on is one of the sequences of
operations that its desk is judged by. -/
theorem forgetTarget_atomic (runtime : Json.Runtime) (sha256 : Bytes → Bytes)
    (events : List Event) (args : ForgetArgs) (fault : Fault)
    (forgivable : (World.run runtime sha256 events).Forgivable args fault) :
    (World.run runtime sha256 events).Forgets runtime sha256 args fault ∧
      ∀ before later : List Event, ∃ laters,
        ((World.run runtime sha256 (before ++ later)).desk runtime sha256).Twin
          (((World.run runtime sha256 before).desk runtime sha256).performAll laters).2 := by
  refine ⟨(World.run_consistent runtime sha256 events).forgets forgivable, fun before later => ?_⟩
  rw [World.run, List.foldl_append]
  exact (World.run_consistent runtime sha256 before).desk_steps later

/-- Two conversations of one robot. -/
def twoConversations : List Event :=
  [.bind (groupBind "bot" (some "s1") "g1"), .bind (groupBind "bot" (some "s2") "g2")]

/-- The first of them goes, and the second one stays. -/
theorem forgetTarget_atomic_group :
    let runtime : Json.Runtime := ⟨1000, 1000, by decide, by decide, fun _ => "0.0"⟩
    (World.run runtime id twoConversations).Forgets runtime id
      ⟨py "bot", py "group", py "g1"⟩ .none := by
  intro runtime
  refine (forgetTarget_atomic runtime id twoConversations _ _ ?_).1
  intro robotId target valid guard
  obtain ⟨rfl, rfl⟩ : ⟨py "bot", by decide⟩ = robotId ∧ (.group, ⟨py "g1", by decide⟩) = target :=
    Prod.ext_iff.mp (Except.ok.inj valid)
  refine ⟨⟨?_, ?_, ?_⟩, by simp, fun interrupted => absurd rfl interrupted.1, fun _ => ?_⟩
  · intro key routed
    have listed := (Dict.mem_keys_iff _ key).mpr routed
    have keys : ((World.run runtime id twoConversations).registry.forgotten ⟨py "bot", by decide⟩
        (.group, ⟨py "g1", by decide⟩)).sessionRoutes.keys = [⟨py "s2", by decide⟩] := by decide
    rw [keys, List.mem_singleton] at listed
    rw [listed]
    exact encodable_py "s2"
  · intro other routed
    have listed := (Dict.mem_keys_iff _ other).mpr routed
    have keys : ((World.run runtime id twoConversations).registry.forgotten ⟨py "bot", by decide⟩
        (.group, ⟨py "g1", by decide⟩)).targetRoutes.keys =
          [(.group, ⟨py "g2", by decide⟩)] := by decide
    rw [keys, List.mem_singleton] at listed
    rw [listed]
    exact encodable_py "g2"
  · exact fun key contested => absurd contested (Finset.notMem_empty key)
  · exact singlyLinked_of_disjoint (by decide)

/-- The latest target of the doubly linked session. -/
def latestTarget : TargetKey := (.group, ⟨py "t2", by decide⟩)

private theorem printable_doublyLinked :
    (doublyLinked.forgotten homeRobot latestTarget).Printable := by
  refine ⟨?_, ?_, fun key contested => absurd contested (Finset.notMem_empty key)⟩
  · intro key routed
    have listed := (Dict.mem_keys_iff _ key).mpr routed
    have keys : (doublyLinked.forgotten homeRobot latestTarget).sessionRoutes.keys =
        [⟨py "s1", by decide⟩] := by decide
    rw [keys, List.mem_singleton] at listed
    rw [listed]
    exact encodable_py "s1"
  · intro other routed
    have listed := (Dict.mem_keys_iff _ other).mpr routed
    have keys : (doublyLinked.forgotten homeRobot latestTarget).targetRoutes.keys =
        [(.group, ⟨py "t1", by decide⟩)] := by decide
    rw [keys, List.mem_singleton] at listed
    rw [listed]
    exact encodable_py "t1"

/-- A foreign bind of the first target silences the session, but not after a rollback. -/
private theorem doublyLinked_rollback (inv : doublyLinked.Invariant) :
    let foreign := groupBind "y" none "t1"
    let rolledBack := ({ (doublyLinked.forgotten homeRobot latestTarget).restored doublyLinked with
      dirty := doublyLinked.dirty } : Registry)
    (doublyLinked.bind foreign).2.robotIdForSession (py "s1") ≠
      (rolledBack.bind foreign).2.robotIdForSession (py "s1") := by
  rw [restored, applyBody_bodyLocked inv]
  decide

/-- One session with two targets, and a write that fails at its temporary file. -/
theorem doublyLinked_not_forgets :
    ¬ ∀ runtime sha256 events args fault,
      (World.run runtime sha256 events).Forgets runtime sha256 args fault := by
  intro always
  let runtime : Json.Runtime := ⟨1000, 1000, by decide, by decide, fun _ => "0.0"⟩
  let args : ForgetArgs := ⟨py "x", py "group", py "t2"⟩
  let events : List Event :=
    [.bind (groupBind "x" (some "s1") "t1"), .bind (groupBind "x" (some "s1") "t2")]
  generalize reached : World.run runtime id events = world
  have consistent := World.run_consistent runtime id events
  rw [reached] at consistent
  have registry : world.registry = doublyLinked := by rw [← reached]; rfl
  have inv : doublyLinked.Invariant := registry ▸ consistent.invariant
  have valid : args.validate = .ok (homeRobot, latestTarget) := by decide
  have guard : doublyLinked.forgettable homeRobot latestTarget = true := by decide
  have dropped := inv.forgotten (forgettable_iff.mp guard).2.1 (forgettable_iff.mp guard).1
  obtain ⟨content, document⟩ := documentBytes_bodyLocked runtime id dropped printable_doublyLinked
  obtain ⟨written, -, failed⟩ := forgetTarget_of_forgettable valid guard
  have ending : (writeSnapshot runtime id doublyLinked
      (doublyLinked.forgotten homeRobot latestTarget).bodyLocked .create world.files).1 =
        .failed := by
    rw [← registry]
    exact writeSnapshot_failed (registry ▸ document) ⟨by simp, fun never => by cases never⟩
  have answer : world.forgetAnswer runtime id args .create ≠ .ok true := by
    rw [World.forgetAnswer, registry, written]
    dsimp only
    rw [ending, failed inv]
    simp
  have forgets := reached ▸ always runtime id events args .create
  have same := (forgets.atomic answer [.bind (groupBind "y" none "t1")]).2.session (py "s1")
  change (world.registry.bind (groupBind "y" none "t1")).2.robotIdForSession (py "s1") =
    ((world.save runtime id (.forgetTarget args) .create).registry.bind
      (groupBind "y" none "t1")).2.robotIdForSession (py "s1") at same
  rw [World.save, registry, written] at same
  dsimp only at same
  rw [Save.finish, ending, failed inv] at same
  exact doublyLinked_rollback inv same

end Worlds

end Registry

end OctoChannel.Identity

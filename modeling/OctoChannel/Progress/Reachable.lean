import OctoChannel.Progress.Table

namespace OctoChannel.Progress

open Foundation Identity

/-- After a drop a drain has ended, or has come to the handler of its loop. -/
inductive Drain.Ends (drain : Drain) (snap : Snapshot) : Drain → Prop where
  | finished : drain.Ends snap drain.finish
  | handler : drain.Ends snap (drain.moved (.working snap (.dropping .failed)))

namespace Controller

variable {controller : Controller}

theorem current?_eq_some {key : ProgressKey} {snap : Snapshot} {turn : ProgressTurn} :
    controller.current? key snap = some turn ↔
      controller.states.get? key = some turn ∧ turn.ident = snap.ident := by
  simp [current?, Option.filter_eq_some_iff]

@[simp] theorem drains_dropStateLocked (key : ProgressKey) (cause : Cause) (discards : Bool) :
    (controller.dropStateLocked key cause discards).2.drains = controller.drains := by
  rw [dropStateLocked]
  split <;> rfl

theorem created_dropStateLocked (key : ProgressKey) (cause : Cause) (discards : Bool) :
    (controller.dropStateLocked key cause discards).2.created = controller.created := by
  rw [dropStateLocked]
  split <;> rfl

/-- A drop records the turn it found, with its initial delivery released or not. -/
theorem mem_log_dropStateLocked {key : ProgressKey} {cause : Cause} {discards : Bool}
    {entry : Record} (member : entry ∈ (controller.dropStateLocked key cause discards).2.log) :
    (∃ turn released, controller.states.get? key = some turn ∧
      entry = .removed { turn with initialDelivery := released } cause) ∨ entry ∈ controller.log := by
  rw [dropStateLocked] at member
  cases stored : controller.states.get? key with
  | none =>
    rw [stored] at member
    exact .inr member
  | some turn =>
    rw [stored] at member
    obtain same | before := List.mem_cons.mp member
    · rw [same]
      split
      · exact .inl ⟨turn, turn.initialDelivery, rfl, rfl⟩
      · exact .inl ⟨turn, true, rfl, rfl⟩
    · exact .inr before

/-- What a drop leaves in the table. -/
theorem get?_dropStateLocked (key other : ProgressKey) (cause : Cause) (discards : Bool) :
    (controller.dropStateLocked key cause discards).2.states.get? other =
      if key = other then none else controller.states.get? other := by
  rw [dropStateLocked]
  cases stored : controller.states.get? key with
  | none =>
    by_cases same : key = other
    · rw [if_pos same, ← same]
      exact stored
    · rw [if_neg same]
  | some turn => exact Dict.get?_erase controller.states key other

theorem syncCurrent_eq {turn synced : ProgressTurn} {snap : Snapshot} {preserve : Bool}
    {answer : SyncAnswer} (done : syncCurrent turn snap preserve answer = some synced) :
    ∃ kept, synced = { turn with preserveRegistrySessionOnDrop := kept } := by
  rw [syncCurrent] at done
  split at done
  · exact ⟨turn.preserveRegistrySessionOnDrop, (Option.some.inj done).symm⟩
  · split at done
    · cases done
    · unfold syncReasoningCardSession at done
      split at done
      · exact ⟨turn.preserveRegistrySessionOnDrop, (Option.some.inj done).symm⟩
      · cases answer with
        | kept => exact ⟨preserve, (Option.some.inj done).symm⟩
        | withdrawn => exact ⟨false, (Option.some.inj done).symm⟩
        | raised => cases done

/-- Whether the session follows does not depend on what an edit writes. -/
private theorem isSome_syncCurrent_edited (turn : ProgressTurn) (snap : Snapshot)
    (answer : SyncAnswer) :
    (syncCurrent { turn with
      cardSeq := snap.nextSeq, deliveredRevision := (snap.revision : Int) } snap true answer).isSome =
        (syncCurrent turn snap true answer).isSome := by
  unfold syncCurrent syncReasoningCardSession
  cases answer <;> split_ifs <;> rfl

/-- The turn after an edit, when its session followed it or need not. -/
private theorem commit_synced {turn synced : ProgressTurn} {snap : Snapshot} {answer : SyncAnswer}
    (done : (if turn.final then syncCurrent { turn with
      cardSeq := snap.nextSeq, deliveredRevision := (snap.revision : Int) } snap true answer
        else some { turn with
          cardSeq := snap.nextSeq, deliveredRevision := (snap.revision : Int) }) = some synced) :
    ∃ kept, synced = { turn with
      cardSeq := snap.nextSeq, deliveredRevision := (snap.revision : Int),
      preserveRegistrySessionOnDrop := kept } := by
  split at done
  · exact syncCurrent_eq done
  · exact ⟨_, (Option.some.inj done).symm⟩

theorem dropByKey_ends (index : Nat) (drain : Drain) (snap : Snapshot) (reason : DropReason)
    (discards : Bool) : ∃ next, drain.Ends snap next ∧
      controller.dropByKey index drain snap reason discards =
        (controller.dropStateLocked drain.key (.gaveUp drain.owner snap reason)
          discards).2.setDrain index next := by
  rw [dropByKey]
  generalize controller.dropStateLocked drain.key (.gaveUp drain.owner snap reason) discards = drop
  obtain ⟨raises, after⟩ := drop
  cases raises with
  | false => exact ⟨_, .finished, rfl⟩
  | true =>
    by_cases handler : reason = .failed
    · exact ⟨_, .finished, by simp only [if_pos handler]⟩
    · exact ⟨_, .handler, by simp only [if_neg handler]⟩

/-- How a drain leaves its turn: a final one is dropped. -/
inductive Leaving (controller : Controller) (index : Nat) (drain : Drain) (snap : Snapshot)
    (cause : Cause) (turn : ProgressTurn) (discards : Bool) : Controller → Prop where
  | dropped {next : Drain} (final : turn.final = true) (ends : drain.Ends snap next) :
      Leaving controller index drain snap cause turn discards
        (((controller.write drain { turn with scheduled := false }).dropStateLocked drain.key cause
          discards).2.setDrain index next)
  | left (unfinished : turn.final = false) :
      Leaving controller index drain snap cause turn discards
        ((controller.write drain { turn with scheduled := false }).setDrain index drain.finish)

theorem leaving (index : Nat) (drain : Drain) (snap : Snapshot) (cause : Cause)
    (turn : ProgressTurn) (inTry discards : Bool) :
    controller.Leaving index drain snap cause turn discards
      (controller.leave index drain snap cause turn inTry discards) := by
  rw [leave]
  by_cases final : turn.final = true
  · rw [if_pos final]
    have dropped : ∀ {next}, drain.Ends snap next → Leaving controller index drain snap cause turn
        discards (((controller.write drain { turn with scheduled := false }).dropStateLocked drain.key
          cause discards).2.setDrain index next) := .dropped final
    generalize (controller.write drain { turn with scheduled := false }).dropStateLocked drain.key
      cause discards = drop at dropped ⊢
    obtain ⟨raises, after⟩ := drop
    cases raises with
    | false => exact dropped .finished
    | true =>
      cases inTry with
      | true => exact dropped .handler
      | false => exact dropped .finished
  · rw [if_neg final]
    exact .left (eq_false_of_ne_true final)

/-- The section after the first send. -/
inductive Posting (controller : Controller) (index : Nat) (drain : Drain) (snap : Snapshot)
    (messageId : PyStr) (world : World) : Controller → Prop where
  | mismatch (gone : controller.current? drain.key snap = none) :
      Posting controller index drain snap messageId world (controller.setDrain index drain.finish)
  | unsynced {turn : ProgressTurn} (current : controller.current? drain.key snap = some turn) :
      Posting controller index drain snap messageId world
        ((controller.write drain { turn with
          sendStarted := false, messageId := some messageId, initialDelivery := true }).setDrain
            index (drain.moved (.working snap (.dropping .failed))))
  | settled {turn : ProgressTurn} (current : controller.current? drain.key snap = some turn)
      (same : turn.revision = snap.revision) (preserved : Bool) :
      Posting controller index drain snap messageId world
        (controller.leave index drain snap (.delivered drain.owner snap) { turn with
          sendStarted := false, messageId := some messageId, initialDelivery := true,
          preserveRegistrySessionOnDrop := preserved, deliveredRevision := snap.revision }
            true world.discards)
  | again {turn : ProgressTurn} (current : controller.current? drain.key snap = some turn)
      (preserved : Bool) :
      Posting controller index drain snap messageId world
        ((controller.write drain { turn with
          sendStarted := false, messageId := some messageId, initialDelivery := true,
          preserveRegistrySessionOnDrop := preserved, deliveredRevision := snap.revision }).setDrain
            index (drain.moved (.looking (some snap))))

theorem posting (index : Nat) (drain : Drain) (snap : Snapshot) (messageId : PyStr) (world : World) :
    controller.Posting index drain snap messageId world
      (controller.post index drain snap messageId world) := by
  rw [post]
  cases current : controller.current? drain.key snap with
  | none => exact .mismatch current
  | some turn =>
    dsimp only
    cases done : syncCurrent { turn with
      sendStarted := false, messageId := some messageId, initialDelivery := true } snap turn.final
        world.synced with
    | none => exact .unsynced current
    | some synced =>
      obtain ⟨preserved, same⟩ := syncCurrent_eq done
      subst same
      dsimp only
      split
      · exact .settled current ‹_› preserved
      · exact .again current preserved

/-- The section after an edit. -/
inductive Committing (controller : Controller) (index : Nat) (drain : Drain) (snap : Snapshot)
    (world : World) : Controller → Prop where
  | mismatch (gone : controller.current? drain.key snap = none) :
      Committing controller index drain snap world (controller.setDrain index drain.finish)
  | unsynced {turn : ProgressTurn} (current : controller.current? drain.key snap = some turn)
      (final : turn.final = true) (raised : syncCurrent turn snap true world.synced = none) :
      Committing controller index drain snap world
        ((controller.write drain { turn with
          cardSeq := snap.nextSeq, deliveredRevision := snap.revision }).setDrain index drain.finish)
  | settled {turn : ProgressTurn} (current : controller.current? drain.key snap = some turn)
      (same : turn.revision = snap.revision) (preserved : Bool) :
      Committing controller index drain snap world
        (controller.leave index drain snap (.delivered drain.owner snap) { turn with
          cardSeq := snap.nextSeq, deliveredRevision := snap.revision,
          preserveRegistrySessionOnDrop := preserved } false world.discards)
  | again {turn : ProgressTurn} (current : controller.current? drain.key snap = some turn)
      (preserved : Bool) :
      Committing controller index drain snap world
        ((controller.write drain { turn with
          cardSeq := snap.nextSeq, deliveredRevision := snap.revision,
          preserveRegistrySessionOnDrop := preserved }).setDrain index
            (drain.moved (.looking (some snap))))

theorem committing (index : Nat) (drain : Drain) (snap : Snapshot) (world : World) :
    controller.Committing index drain snap world (controller.commit index drain snap world) := by
  rw [commit]
  cases current : controller.current? drain.key snap with
  | none => exact .mismatch current
  | some turn =>
    dsimp only
    cases done : (if turn.final then syncCurrent { turn with
      cardSeq := snap.nextSeq, deliveredRevision := (snap.revision : Int) } snap true world.synced
        else some { turn with
          cardSeq := snap.nextSeq, deliveredRevision := (snap.revision : Int) }) with
    | none =>
      have final : turn.final = true := by
        by_cases final : turn.final = true
        · exact final
        · rw [if_neg final] at done
          cases done
      rw [if_pos final] at done
      refine .unsynced current final (Option.not_isSome_iff_eq_none.mp fun follows => ?_)
      rw [← isSome_syncCurrent_edited, done] at follows
      cases follows
    | some synced =>
      obtain ⟨preserved, same⟩ := commit_synced done
      subst same
      dsimp only
      split
      · exact .settled current ‹_› preserved
      · exact .again current preserved

end Controller

/-- What is left of a table: turns that were there, and what followed them. -/
def Leaves (before after : Dict ProgressKey ProgressTurn) : Prop :=
  ∀ key next, after.get? key = some next →
    ∃ turn, before.get? key = some turn ∧ turn.Follows next

theorem Leaves.refl (states : Dict ProgressKey ProgressTurn) : Leaves states states :=
  fun _ next stored => ⟨next, stored, .refl next⟩

theorem leaves_set {states : Dict ProgressKey ProgressTurn} {key : ProgressKey}
    {turn next : ProgressTurn} (stored : states.get? key = some turn) (follows : turn.Follows next) :
    Leaves states (states.set key next) := by
  intro other found held
  rw [Dict.get?_set] at held
  split at held
  · rename_i same
    cases held
    exact ⟨turn, same ▸ stored, follows⟩
  · exact ⟨found, held, .refl found⟩

theorem leaves_drop (controller : Controller) (key : ProgressKey) (cause : Cause)
    (discards : Bool) :
    Leaves controller.states (controller.dropStateLocked key cause discards).2.states := by
  intro other found held
  rw [Controller.get?_dropStateLocked] at held
  split at held
  · cases held
  · exact ⟨found, held, .refl found⟩

/-- A turn that is not final is the newest segment of its turn. -/
def Newest (states : Dict ProgressKey ProgressTurn) : Prop :=
  ∀ key turn other found, states.get? key = some turn → turn.final = false →
    states.get? other = some found → other.sessionId = key.sessionId →
    other.turnId = key.turnId → other.segmentNo ≤ key.segmentNo

theorem Newest.of_leaves {before after : Dict ProgressKey ProgressTurn} (newest : Newest before)
    (leaves : Leaves before after) : Newest after := by
  intro key next other found stored unfinished held session turnId
  obtain ⟨turn, was, follows⟩ := leaves key next stored
  obtain ⟨source, had, _⟩ := leaves other found held
  have unfinishedBefore : turn.final = false := by
    by_cases final : turn.final = true
    · rw [follows.final final] at unfinished
      cases unfinished
    · exact eq_false_of_ne_true final
  exact newest key turn other source was unfinishedBefore had session turnId

structure Kept (controller : Controller) : Prop extends Filed controller where
  newest : Newest controller.states

/-- An answered edit leaves the drain with its snapshot. -/
theorem Drain.editAnswered_eq (drain : Drain) (snap : Snapshot) (attempt : Nat)
    (answer : EditAnswer) : ∃ exhaustions stage,
      Controller.editAnswered drain snap attempt answer =
        { drain with editExhaustions := exhaustions, point := .working snap stage } := by
  cases answer with
  | edited => exact ⟨_, _, rfl⟩
  | raised error =>
    rw [Controller.editAnswered]
    split
    · exact ⟨_, _, rfl⟩
    · split <;> exact ⟨_, _, rfl⟩

namespace Kept

variable {controller : Controller} {index : Nat} {drain : Drain} {snap : Snapshot}

theorem start (adapters : Nat → AdapterStatus) : Kept (.start adapters) :=
  ⟨Filed.start adapters, fun _ _ _ _ stored => by cases stored⟩

theorem record (kept : Kept controller) (entry : Record) : Kept (controller.record entry) :=
  ⟨kept.toFiled.record entry, kept.newest⟩

theorem store (kept : Kept controller) {key : ProgressKey} {turn next : ProgressTurn}
    (stored : controller.states.get? key = some turn) (follows : turn.Follows next)
    (sound : next.Sound) : Kept (controller.store key next) :=
  ⟨kept.toFiled.store stored follows sound, kept.newest.of_leaves (leaves_set stored follows)⟩

theorem drop (kept : Kept controller) (key : ProgressKey) (cause : Cause) (discards : Bool) :
    Kept (controller.dropStateLocked key cause discards).2 :=
  ⟨kept.toFiled.drop key cause discards, kept.newest.of_leaves (leaves_drop controller key cause discards)⟩

theorem setDrain (kept : Kept controller) {next : Drain}
    (running : controller.drains[index]? = some drain) (key : next.key = drain.key)
    (owner : next.owner = drain.owner)
    (holds : ∀ snap ∈ next.state?, snap ∈ drain.state? ∨
      ∃ turn now, controller.states.get? drain.key = some turn ∧ snap = turn.snapshot now) :
    Kept (controller.setDrain index next) :=
  ⟨kept.toFiled.setDrain running key owner holds, kept.newest⟩

theorem finish (kept : Kept controller) (running : controller.drains[index]? = some drain) :
    Kept (controller.setDrain index drain.finish) :=
  kept.setDrain running rfl rfl fun _ present => by cases present

theorem move (kept : Kept controller) (running : controller.drains[index]? = some drain)
    {next : Drain} (key : next.key = drain.key) (owner : next.owner = drain.owner)
    (state : next.state? = some snap) (holds : snap ∈ drain.state?) :
    Kept (controller.setDrain index next) :=
  kept.setDrain running key owner fun other present => by
    rw [state] at present
    cases present
    exact .inl holds

theorem write (kept : Kept controller) {turn next : ProgressTurn}
    (stored : controller.states.get? drain.key = some turn)
    (origin : next.toTurnOrigin = turn.toTurnOrigin)
    (content : next.toTurnContent = turn.toTurnContent) : Kept (controller.write drain next) :=
  (kept.record _).store stored (.of_content origin content)
    ((kept.sound stored).of_content content)

theorem ends (kept : Kept controller) (running : controller.drains[index]? = some drain)
    (holds : snap ∈ drain.state?) {next : Drain} (ends : drain.Ends snap next) :
    Kept (controller.setDrain index next) := by
  cases ends with
  | finished => exact kept.finish running
  | handler => exact kept.move running rfl rfl rfl holds

/-- A drop under the key of the drain, which moves on. -/
theorem dropMove (kept : Kept controller) (running : controller.drains[index]? = some drain)
    (holds : snap ∈ drain.state?) (cause : Cause) (discards : Bool) {next : Drain}
    (ends : drain.Ends snap next) :
    Kept ((controller.dropStateLocked drain.key cause discards).2.setDrain index next) := by
  have still : (controller.dropStateLocked drain.key cause discards).2.drains[index]? =
      some drain := by
    rw [Controller.drains_dropStateLocked, running]
  exact (kept.drop drain.key cause discards).ends still holds ends

theorem dropByKey (kept : Kept controller) (running : controller.drains[index]? = some drain)
    (holds : snap ∈ drain.state?) (reason : DropReason) (discards : Bool) :
    Kept (controller.dropByKey index drain snap reason discards) := by
  obtain ⟨next, ends, same⟩ := controller.dropByKey_ends index drain snap reason discards
  rw [same]
  exact kept.dropMove running holds _ discards ends

theorem leave (kept : Kept controller) (running : controller.drains[index]? = some drain)
    (holds : snap ∈ drain.state?) {turn next : ProgressTurn}
    (stored : controller.states.get? drain.key = some turn)
    (origin : next.toTurnOrigin = turn.toTurnOrigin)
    (content : next.toTurnContent = turn.toTurnContent) (cause : Cause) (inTry discards : Bool) :
    Kept (controller.leave index drain snap cause next inTry discards) := by
  have left : Kept (controller.write drain { next with scheduled := false }) :=
    kept.write stored origin content
  have leaving := controller.leaving index drain snap cause next inTry discards
  generalize controller.leave index drain snap cause next inTry discards = after at leaving ⊢
  cases leaving with
  | dropped _ ends => exact left.dropMove running holds cause discards ends
  | left => exact left.finish running

theorem look (kept : Kept controller) (running : controller.drains[index]? = some drain)
    (world : World) : Kept (controller.look index drain world) := by
  rw [Controller.look]
  cases stored : controller.states.get? drain.key with
  | none => exact kept.finish running
  | some turn =>
    dsimp only
    split
    · have dropped := kept.drop drain.key (.adapterGone drain.owner) world.discards
      exact dropped.finish (by rw [Controller.drains_dropStateLocked, running])
    · have read : Kept ((controller.record (.read drain.owner turn.ident)).setDrain index
          (drain.moved (.working (turn.snapshot world.now)
            ((turn.snapshot world.now).stage world.renders)))) :=
        (kept.record _).setDrain running rfl rfl fun other present => by
          cases present
          exact .inr ⟨turn, world.now, stored, rfl⟩
      split
      · exact read.record _
      · exact read

theorem choose (kept : Kept controller) (running : controller.drains[index]? = some drain)
    (holds : snap ∈ drain.state?) (selected : Option TemplateRef) :
    Kept (controller.choose index drain snap selected) := by
  rw [Controller.choose]
  cases current : controller.current? drain.key snap with
  | none => exact kept.finish running
  | some turn =>
    have stored := (Controller.current?_eq_some.mp current).1
    exact (kept.write stored (by rfl) (by rfl)).move running (by rfl) (by rfl) (by rfl) holds

theorem idle (kept : Kept controller) (running : controller.drains[index]? = some drain)
    (holds : snap ∈ drain.state?) (discards : Bool) :
    Kept (controller.idle index drain snap discards) := by
  rw [Controller.idle]
  cases current : controller.current? drain.key snap with
  | none => exact kept.finish running
  | some turn =>
    have stored := (Controller.current?_eq_some.mp current).1
    exact kept.leave running holds stored (by rfl) (by rfl) _ true discards

theorem announce (kept : Kept controller) (running : controller.drains[index]? = some drain)
    (holds : snap ∈ drain.state?) : Kept (controller.announce index drain snap) := by
  rw [Controller.announce]
  cases current : controller.current? drain.key snap with
  | none => exact kept.finish running
  | some turn =>
    have stored := (Controller.current?_eq_some.mp current).1
    exact ((kept.write stored (by rfl) (by rfl)).record _).move running (by rfl) (by rfl) (by rfl) holds

theorem post (kept : Kept controller) (running : controller.drains[index]? = some drain)
    (holds : snap ∈ drain.state?) (messageId : PyStr) (world : World) :
    Kept (controller.post index drain snap messageId world) := by
  have posting := controller.posting index drain snap messageId world
  generalize controller.post index drain snap messageId world = after at posting ⊢
  cases posting with
  | mismatch => exact kept.finish running
  | unsynced current =>
    have stored := (Controller.current?_eq_some.mp current).1
    exact (kept.write stored (by rfl) (by rfl)).move running (by rfl) (by rfl) (by rfl) holds
  | settled current =>
    have stored := (Controller.current?_eq_some.mp current).1
    exact kept.leave running holds stored (by rfl) (by rfl) _ true world.discards
  | again current =>
    have stored := (Controller.current?_eq_some.mp current).1
    exact (kept.write stored (by rfl) (by rfl)).move running (by rfl) (by rfl) (by rfl) holds

theorem commit (kept : Kept controller) (running : controller.drains[index]? = some drain)
    (holds : snap ∈ drain.state?) (world : World) :
    Kept (controller.commit index drain snap world) := by
  have committing := controller.committing index drain snap world
  generalize controller.commit index drain snap world = after at committing ⊢
  cases committing with
  | mismatch => exact kept.finish running
  | unsynced current =>
    have stored := (Controller.current?_eq_some.mp current).1
    exact (kept.write stored (by rfl) (by rfl)).finish running
  | settled current =>
    have stored := (Controller.current?_eq_some.mp current).1
    exact kept.leave running holds stored (by rfl) (by rfl) _ false world.discards
  | again current =>
    have stored := (Controller.current?_eq_some.mp current).1
    exact (kept.write stored (by rfl) (by rfl)).move running (by rfl) (by rfl) (by rfl) holds

theorem advance (kept : Kept controller) (running : controller.drains[index]? = some drain)
    (world : World) : Kept (controller.advance index drain world) := by
  rw [Controller.advance]
  cases point : drain.point with
  | queued =>
    dsimp only
    rw [Controller.spawn]
    split
    · exact kept.finish running
    · exact kept.setDrain running rfl rfl fun _ present => by cases present
  | looking last => exact kept.look running world
  | finished => exact kept
  | working snap stage =>
    have holds : snap ∈ drain.state? := by
      rw [Drain.state?, point]
      exact rfl
    cases stage with
    | fetching => exact kept.move running (by rfl) (by rfl) (by rfl) holds
    | choosing selected => exact kept.choose running holds selected
    | idling => exact kept.idle running holds world.discards
    | announcing => exact kept.announce running holds
    | sending => exact kept.move running (by rfl) (by rfl) (by rfl) holds
    | posted messageId => exact kept.post running holds messageId world
    | awaiting attempt =>
      obtain ⟨exhaustions, stage, same⟩ := drain.editAnswered_eq snap attempt world.edited
      dsimp only
      rw [same]
      exact kept.move running (by rfl) (by rfl) (by rfl) holds
    | pausing attempt => exact (kept.record _).move running (by rfl) (by rfl) (by rfl) holds
    | resting => exact kept.look running world
    | delivered => exact kept.commit running holds world
    | dropping reason => exact kept.dropByKey running holds reason world.discards

end Kept

namespace Controller

variable {controller : Controller} {key : ProgressKey} {turn : ProgressTurn}

/-- How `_schedule_locked` ends for a turn that is stored. -/
inductive Scheduling (controller : Controller) (key : ProgressKey) (turn : ProgressTurn)
    (discards : Bool) : Controller → Prop where
  | nothing (idle : turn.scheduled = true ∨ (turn.hasRealTool = false ∧ turn.final = false)) :
      Scheduling controller key turn discards controller
  | dropped (cause : Cause)
      (why : (cause = .nothingToRender ∧ turn.hasRealTool = false) ∨ cause = .notScheduled) :
      Scheduling controller key turn discards (controller.dropStateLocked key cause discards).2
  | queued (unscheduled : turn.scheduled = false) :
      Scheduling controller key turn discards
        { controller.store key { turn with scheduled := true } with
          drains := controller.drains ++ [⟨key, turn.ident, turn.adapter, 0, .queued⟩] }

theorem scheduling (stored : controller.states.get? key = some turn) (discards : Bool) :
    Scheduling controller key turn discards (controller.scheduleLocked key discards) := by
  rw [scheduleLocked, stored]
  dsimp only
  by_cases scheduled : turn.scheduled = true
  · rw [if_pos scheduled]
    exact .nothing (.inl scheduled)
  · rw [if_neg scheduled]
    by_cases real : turn.hasRealTool = true
    · simp only [real, Bool.not_true, Bool.false_eq_true, if_false]
      split
      · exact .dropped _ (.inr rfl)
      · exact .queued (eq_false_of_ne_true scheduled)
    · simp only [eq_false_of_ne_true real, Bool.not_false, if_true]
      by_cases final : turn.final = true
      · rw [if_pos final]
        exact .dropped _ (.inl ⟨rfl, eq_false_of_ne_true real⟩)
      · rw [if_neg final]
        exact .nothing (.inr ⟨eq_false_of_ne_true real, eq_false_of_ne_true final⟩)

/-- A turn that has just begun asks for no drain. -/
private theorem scheduleLocked_insert (adapter : Nat) (route : TrustedOctoRoute)
    (mode : Option DeliveryMode)
    (now : Int) (discards : Bool) :
    (controller.insert adapter route key mode now).scheduleLocked key discards =
      controller.insert adapter route key mode now := by
  rw [scheduleLocked, insert, store, Dict.get?_set_self]
  rfl

theorem latest_mem {keys : List ProgressKey} {found : ProgressKey}
    (latest : latest keys = some found) : found ∈ keys := by
  induction keys generalizing found with
  | nil => cases latest
  | cons first rest ih =>
    rw [Controller.latest] at latest
    cases inner : Controller.latest rest with
    | none =>
      rw [inner] at latest
      cases latest
      exact List.mem_cons_self
    | some other =>
      rw [inner] at latest
      dsimp only at latest
      split at latest
      · cases latest
        exact List.mem_cons_of_mem first (ih inner)
      · cases latest
        exact List.mem_cons_self

/-- The turn a hook finds is stored and not final. -/
private theorem findKeyLocked_spec {sessionId turnId : PyStr}
    (found : controller.findKeyLocked sessionId turnId = some key)
    (stored : controller.states.get? key = some turn) : turn.final = false := by
  have candidate : key ∈ controller.candidates sessionId := by
    rw [findKeyLocked] at found
    split at found
    · cases found
    · dsimp only at found
      have narrowed : ∀ other ∈ (if turnId = [] then []
          else (controller.candidates sessionId).filter fun key => key.turnId = turnId),
          other ∈ controller.candidates sessionId := by
        intro other member
        split at member
        · cases member
        · exact (List.mem_filter.mp member).1
      generalize (if turnId = [] then []
        else (controller.candidates sessionId).filter fun key => key.turnId = turnId) = exact
        at found narrowed
      split at found
      · exact narrowed key (latest_mem found)
      · split at found
        · cases found
        · exact latest_mem found
  obtain ⟨entry, member, same⟩ := List.mem_map.mp candidate
  obtain ⟨inside, passes⟩ := List.mem_filter.mp member
  have held := (Dict.mem_entries_iff controller.states entry.1 entry.2).mp inside
  rw [same, stored] at held
  cases held
  simp only [Bool.and_eq_true, Bool.not_eq_true'] at passes
  exact passes.2

private theorem lt_nextSegment {keys : List ProgressKey} (member : key ∈ keys) :
    key.segmentNo < nextSegment keys := by
  induction keys with
  | nil => cases member
  | cons first rest ih =>
    rw [nextSegment, List.foldr_cons]
    obtain here | later := List.mem_cons.mp member
    · rw [here]
      omega
    · have below := ih later
      rw [nextSegment] at below
      omega

/-- Every turn held for the same session and turn is older than the key. -/
def Beyond (controller : Controller) (key : ProgressKey) : Prop :=
  ∀ other found, controller.states.get? other = some found → other.sessionId = key.sessionId →
    other.turnId = key.turnId → other.segmentNo < key.segmentNo

theorem Beyond.free (beyond : controller.Beyond key) : controller.states.get? key = none := by
  cases held : controller.states.get? key with
  | none => rfl
  | some found => exact absurd (beyond key found held rfl rfl) (Nat.lt_irrefl _)

/-- The ways an event can change the controller, with what is known of the table then. -/
inductive Happening (controller : Controller) : ProgressEvent → Controller → Prop where
  | nothing {event : ProgressEvent} : Happening controller event controller
  | amended {event : ProgressEvent} {key : ProgressKey} {turn : ProgressTurn} {amended : Amended}
      {discards : Bool} (stored : controller.states.get? key = some turn)
      (unfinished : turn.final = false) (admits : turn.Admits amended) :
      Happening controller event (controller.amend key discards amended)
  | begun {event : ProgressEvent} {adapter : Nat} {route : TrustedOctoRoute} {key : ProgressKey}
      {now : Int} (beyond : controller.Beyond key)
      (finals : ∀ other found, controller.states.get? other = some found →
        other.sessionId = key.sessionId → other.turnId = key.turnId → found.final = true) :
      Happening controller event (controller.insert adapter route key none now)
  | unsent {event : ProgressEvent} {key : ProgressKey} {turn : ProgressTurn} {now : Int}
      {discards : Bool} (stored : controller.states.get? key = some turn)
      (unfinished : turn.final = false)
      (beyond : controller.Beyond { key with segmentNo := key.segmentNo + 1 }) :
      Happening controller event ((controller.insert turn.adapter turn.route
        { key with segmentNo := key.segmentNo + 1 } turn.deliveryMode now).dropStateLocked key
          .rolledOver discards).2
  | stopped {event : ProgressEvent} {key : ProgressKey} {turn : ProgressTurn} {now : Int}
      {discards : Bool} (stored : controller.states.get? key = some turn)
      (unfinished : turn.final = false)
      (beyond : controller.Beyond { key with segmentNo := key.segmentNo + 1 }) :
      Happening controller event ((controller.insert turn.adapter turn.route
        { key with segmentNo := key.segmentNo + 1 } turn.deliveryMode now).amend key discards
          (.published (turn.stopped now)))
  | cancelled {event : ProgressEvent} {discards : ProgressKey → Bool} {keys : List ProgressKey} :
      Happening controller event (dropAll discards keys controller)
  | adapter {event : ProgressEvent} {adapters : Nat → AdapterStatus} :
      Happening controller event { controller with adapters }
  | advanced {index : Nat} {drain : Drain} {world : World}
      (running : controller.drains[index]? = some drain) :
      Happening controller (.drain index world) (controller.advance index drain world)

theorem onTurn_happening {event : ProgressEvent} (sessionId turnId : PyStr) (discards : Bool)
    {hook : ProgressTurn → Amended} (admits : ∀ turn : ProgressTurn, turn.Admits (hook turn)) :
    controller.Happening event (controller.onTurn sessionId turnId discards hook) := by
  rw [onTurn]
  cases found : controller.findKeyLocked sessionId turnId with
  | none => exact .nothing
  | some key =>
    dsimp only
    cases stored : controller.states.get? key with
    | none => exact .nothing
    | some turn => exact .amended stored (findKeyLocked_spec found stored) (admits turn)

private theorem begin_happening {event : ProgressEvent} (onBehalfOf : Bool) (adapter : Nat)
    (route : TrustedOctoRoute) (sessionId turnId : PyStr) (now : Int) (discards : Bool) :
    controller.Happening event
      (controller.begin onBehalfOf adapter route sessionId turnId now discards) := by
  rw [begin]
  split
  · exact .nothing
  · dsimp only
    split
    · exact .nothing
    · rename_i allFinal
      rw [scheduleLocked_insert]
      have member : ∀ {other : ProgressKey} {found : ProgressTurn},
          controller.states.get? other = some found → other.sessionId = sessionId →
          other.turnId = turnId → other ∈ controller.matching sessionId turnId := by
        intro other found held session turn
        have stored : other ∈ controller.states.keys :=
          (Dict.mem_keys_iff controller.states other).mpr (by rw [held]; rfl)
        exact List.mem_filter.mpr ⟨stored, by simp [session, turn]⟩
      apply Happening.begun
      · intro other found held session turn
        exact lt_nextSegment (member held session turn)
      · intro other found held session turn
        by_cases final : found.final = true
        · exact final
        · refine absurd (List.any_eq_true.mpr ⟨other, member held session turn, ?_⟩) allFinal
          simp [isFinal, held, final]

/-- The next segment is beyond every other: the turn to roll is the newest one. -/
private theorem beyond_next (kept : Kept controller)
    (stored : controller.states.get? key = some turn)
    (unfinished : turn.final = false) :
    controller.Beyond { key with segmentNo := key.segmentNo + 1 } := by
  intro other found held session turnId
  exact Nat.lt_succ_of_le (kept.newest key turn other found stored unfinished held session turnId)

private theorem rollover_happening (kept : Kept controller) {event : ProgressEvent}
    (chatId requesterUid : PyStr) (now : Int) (discards : Bool) :
    controller.Happening event (controller.rolloverForInbound chatId requesterUid now discards) := by
  rw [rolloverForInbound]
  split
  · exact .nothing
  · split
    · rename_i oldKey turn rolling
      have member : (oldKey, turn) ∈ controller.rolling chatId requesterUid := by
        rw [rolling]
        exact List.mem_singleton_self _
      obtain ⟨inside, passes⟩ := List.mem_filter.mp member
      have stored := (Dict.mem_entries_iff controller.states oldKey turn).mp inside
      have unfinished : turn.final = false := by
        simp only [Bool.and_eq_true, Bool.not_eq_true'] at passes
        exact passes.1.1
      have beyond := beyond_next kept stored unfinished
      split
      · exact .nothing
      · dsimp only
        rw [kept.keyed stored]
        split
        · exact .unsent stored unfinished beyond
        · exact .stopped stored unfinished beyond
    · exact .nothing

/-- Every step is one of these. -/
theorem happening (kept : Kept controller) (event : ProgressEvent) :
    controller.Happening event (progressStep controller event) := by
  cases event with
  | begin onBehalfOf adapter route sessionId turnId now discards =>
    exact begin_happening onBehalfOf adapter route sessionId turnId now discards
  | modelStarted sessionId turnId modelCallId label now discards =>
    exact onTurn_happening sessionId turnId discards
      fun turn => turn.modelStarted_admits modelCallId label now
  | modelFinished sessionId turnId finish discards =>
    exact onTurn_happening sessionId turnId discards fun turn => turn.modelFinished_admits finish
  | toolStarted sessionId turnId start discards =>
    exact onTurn_happening sessionId turnId discards fun turn => turn.toolStarted_admits start
  | toolFinished sessionId turnId finish discards =>
    exact onTurn_happening sessionId turnId discards fun turn => turn.toolFinished_admits finish
  | complete sessionId turnId failed terminalPhase now discards =>
    exact onTurn_happening sessionId turnId discards
      fun turn => turn.complete_admits failed terminalPhase now
  | rolloverForInbound chatId requesterUid now discards =>
    exact rollover_happening kept chatId requesterUid now discards
  | cancelSession sessionId discards =>
    rw [progressStep, cancelSession]
    split
    · exact .nothing
    · exact .cancelled
  | cancelAdapter adapter discards => exact .cancelled
  | cancelAll discards => exact .cancelled
  | adapter adapter status => exact .adapter
  | drain index world =>
    rw [progressStep]
    cases running : controller.drains[index]? with
    | none => exact .nothing
    | some drain => exact .advanced running

end Controller

namespace ProgressTurn

variable {turn next : ProgressTurn}

theorem Follows.publish (follows : turn.Follows next) : turn.Follows next.publish :=
  ⟨follows.origin, follows.revision, follows.final⟩

theorem sound_publish (turn : ProgressTurn) : turn.publish.Sound :=
  ⟨Int.le_refl _, fun _ => rfl⟩

end ProgressTurn

variable {controller : Controller} {key : ProgressKey} {turn : ProgressTurn}

theorem Filed.schedule (filed : Filed controller) (stored : controller.states.get? key = some turn)
    (discards : Bool) : Filed (controller.scheduleLocked key discards) := by
  have scheduling := Controller.scheduling stored discards
  generalize controller.scheduleLocked key discards = after at scheduling ⊢
  cases scheduling with
  | nothing => exact filed
  | dropped cause => exact filed.drop key cause discards
  | queued =>
    have scheduled : Filed (controller.store key { turn with scheduled := true }) :=
      filed.store stored (.of_content (by rfl) (by rfl)) ((filed.sound stored).of_content (by rfl))
    exact scheduled.queue (Dict.get?_set_self _ _ _) turn.adapter

theorem leaves_schedule (stored : controller.states.get? key = some turn) (discards : Bool) :
    Leaves controller.states (controller.scheduleLocked key discards).states := by
  have scheduling := Controller.scheduling stored discards
  generalize controller.scheduleLocked key discards = after at scheduling ⊢
  cases scheduling with
  | nothing => exact .refl _
  | dropped cause => exact leaves_drop controller key cause discards
  | queued => exact leaves_set stored (.of_content (by rfl) (by rfl))

theorem Leaves.trans {first second third : Dict ProgressKey ProgressTurn}
    (left : Leaves first second) (right : Leaves second third) : Leaves first third := by
  intro key next stored
  obtain ⟨middle, between, followed⟩ := right key next stored
  obtain ⟨turn, was, follows⟩ := left key middle between
  exact ⟨turn, was, followed.origin.trans follows.origin,
    Nat.le_trans follows.revision followed.revision,
    fun final => followed.final (follows.final final)⟩

theorem Filed.amend (filed : Filed controller) (stored : controller.states.get? key = some turn)
    {amended : Amended} (admits : turn.Admits amended) (discards : Bool) :
    Filed (controller.amend key discards amended) := by
  cases amended with
  | kept => exact filed
  | quiet next => exact filed.store stored admits.toFollows (admits.sound (filed.sound stored))
  | published next =>
    have published := filed.store stored admits.1.toFollows.publish next.sound_publish
    exact published.schedule (Dict.get?_set_self _ _ _) discards

theorem leaves_amend (stored : controller.states.get? key = some turn) {amended : Amended}
    (admits : turn.Admits amended) (discards : Bool) :
    Leaves controller.states (controller.amend key discards amended).states := by
  cases amended with
  | kept => exact .refl _
  | quiet next => exact leaves_set stored admits.toFollows
  | published next =>
    have written : Leaves controller.states (controller.store key next.publish).states :=
      leaves_set stored admits.1.toFollows.publish
    exact written.trans (leaves_schedule (Dict.get?_set_self _ _ _) discards)

theorem Kept.dropAll (kept : Kept controller) (discards : ProgressKey → Bool)
    (keys : List ProgressKey) : Kept (Controller.dropAll discards keys controller) := by
  induction keys generalizing controller with
  | nil => exact kept
  | cons first rest ih =>
    rw [Controller.dropAll]
    have dropped := kept.drop first .cancelled (discards first)
    generalize controller.dropStateLocked first .cancelled (discards first) = drop at dropped ⊢
    obtain ⟨raises, after⟩ := drop
    cases raises with
    | true => exact dropped
    | false => exact ih dropped

/-- What another turn of the same session and turn id looks like while the new segment
is the only one that is not final. -/
theorem newest_of_next {before after : Dict ProgressKey ProgressTurn} (newest : Newest before)
    (stored : before.get? key = some turn) (unfinished : turn.final = false)
    (olds : ∀ other found, after.get? other = some found →
      other = { key with segmentNo := key.segmentNo + 1 } ∨
        (∃ was, before.get? other = some was ∧ was.Follows found) ∧
          (other = key → found.final = true)) : Newest after := by
  intro first next other found held open' also session turnId
  have previous : ∀ {there copy}, before.get? there = some copy → there.sessionId = key.sessionId →
      there.turnId = key.turnId → there.segmentNo ≤ key.segmentNo :=
    fun had => newest key turn _ _ stored unfinished had
  obtain here | ⟨⟨was, had, follows⟩, rolled⟩ := olds first next held
  · obtain there | ⟨⟨copy, hadOther, _⟩, _⟩ := olds other found also
    · rw [here, there]
    · rw [here] at session turnId ⊢
      exact Nat.le_succ_of_le (previous hadOther session turnId)
  · have wasOpen : was.final = false := by
      by_cases final : was.final = true
      · rw [follows.final final] at open'
        cases open'
      · exact eq_false_of_ne_true final
    obtain there | ⟨⟨copy, hadOther, _⟩, _⟩ := olds other found also
    · -- the first key would be the newest of the same turn, and so the one that was rolled
      rw [there] at session turnId ⊢
      have above := newest first was key turn had wasOpen stored session turnId
      have below := previous had session.symm turnId.symm
      have same : first = key := by
        obtain ⟨firstSession, firstTurn, firstSegment⟩ := first
        obtain ⟨keySession, keyTurn, keySegment⟩ := key
        simp only [ProgressKey.mk.injEq]
        exact ⟨session.symm, turnId.symm, Nat.le_antisymm below above⟩
      rw [rolled same] at open'
      cases open'
    · exact newest first was other copy had wasOpen hadOther session turnId

theorem get?_insert (adapter : Nat) (route : TrustedOctoRoute) (mode : Option DeliveryMode)
    (now : Int) (other : ProgressKey) :
    (controller.insert adapter route key mode now).states.get? other =
      if key = other then some (.fresh ⟨controller.created, adapter, route, key, now⟩ mode)
      else controller.states.get? other :=
  Dict.get?_set _ _ _ _

/-- The turn that is rolled stays where it is when its next segment is stored. -/
theorem get?_insert_next (adapter : Nat) (route : TrustedOctoRoute) (mode : Option DeliveryMode)
    (now : Int) :
    (controller.insert adapter route { key with segmentNo := key.segmentNo + 1 } mode now).states.get?
      key = controller.states.get? key := by
  rw [get?_insert, if_neg]
  intro same
  have segment := congrArg ProgressKey.segmentNo same
  simp at segment

/-- Every step keeps the table. -/
theorem Kept.step (kept : Kept controller) (event : ProgressEvent) :
    Kept (progressStep controller event) := by
  have happening := Controller.happening kept event
  generalize progressStep controller event = after at happening ⊢
  cases happening with
  | nothing => exact kept
  | amended stored unfinished admits =>
    exact ⟨kept.toFiled.amend stored admits _, kept.newest.of_leaves (leaves_amend stored admits _)⟩
  | @begun _ adapter route key now beyond finals =>
    refine ⟨kept.toFiled.insert beyond.free adapter route none now, ?_⟩
    intro first next other found held open' also session turnId
    rw [get?_insert] at held also
    split at also
    · rename_i there
      split at held
      · rename_i here
        rw [← here, ← there]
      · rename_i elsewhere
        rw [← there] at session turnId
        rw [finals first next held session.symm turnId.symm] at open'
        cases open'
    · split at held
      · rename_i here
        rw [← here] at session turnId ⊢
        exact Nat.le_of_lt (beyond other found also session turnId)
      · exact kept.newest first next other found held open' also session turnId
  | @unsent _ key turn now discards stored unfinished beyond =>
    refine ⟨(kept.toFiled.insert beyond.free turn.adapter turn.route turn.deliveryMode now).drop
      key .rolledOver discards, ?_⟩
    refine newest_of_next kept.newest stored unfinished fun other found held => ?_
    rw [Controller.get?_dropStateLocked] at held
    split at held
    · cases held
    · rename_i elsewhere
      rw [get?_insert] at held
      split at held
      · rename_i here
        exact .inl here.symm
      · exact .inr ⟨⟨found, held, .refl found⟩, fun same => absurd same.symm elsewhere⟩
  | @stopped _ key turn now discards stored unfinished beyond =>
    have still : (controller.insert turn.adapter turn.route
        { key with segmentNo := key.segmentNo + 1 } turn.deliveryMode now).states.get? key =
          some turn := (get?_insert_next turn.adapter turn.route turn.deliveryMode now).trans stored
    refine ⟨(kept.toFiled.insert beyond.free turn.adapter turn.route turn.deliveryMode now).amend
      still (turn.stopped_admits now) discards, ?_⟩
    refine newest_of_next kept.newest stored unfinished fun other found held => ?_
    obtain ⟨was, had, follows⟩ := leaves_amend still (turn.stopped_admits now) discards other found held
    rw [get?_insert] at had
    split at had
    · rename_i here
      exact .inl here.symm
    · refine .inr ⟨⟨was, had, follows⟩, fun same => ?_⟩
      subst same
      obtain ⟨source, written, followed⟩ :=
        leaves_schedule (Dict.get?_set_self _ _ _) discards other found held
      cases (Dict.get?_set_self _ _ _).symm.trans written
      exact followed.final rfl
  | cancelled => exact kept.dropAll _ _
  | adapter => exact ⟨kept.toFiled.adapter _, kept.newest⟩
  | advanced running => exact kept.advance running _

end OctoChannel.Progress

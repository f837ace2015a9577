import OctoChannel.Progress.Reachable

/-! Whether an update of a turn can be left behind. The flag `scheduled` is the only
wake-up of a drain, so whoever clears it must have delivered what was published. -/

namespace OctoChannel.Progress

open Foundation Identity

/-- A drain that was queued or runs for the turn. -/
def Controller.Served (controller : Controller) (ident : Nat) : Prop :=
  ∃ drain ∈ controller.drains, drain.IsLive ∧ drain.Serves ident

instance (controller : Controller) (ident : Nat) : Decidable (controller.Served ident) :=
  inferInstanceAs (Decidable (∃ drain ∈ controller.drains, _))

/-- What a final turn may be removed for: it was cancelled or could not be delivered,
there was nothing to render, or its last revision was delivered. -/
def Warranted (turn : ProgressTurn) : Cause → Prop
  | .cancelled | .notScheduled | .adapterGone _ => True
  | .rolledOver => False
  | .nothingToRender => turn.hasRealTool = false
  | .idle _ snap | .delivered _ snap =>
    snap.ident = turn.ident ∧ snap.revision = turn.revision
  | .gaveUp _ snap _ => snap.ident = turn.ident

/-- No update is stranded: without a drain a turn has been delivered as published, a
final turn leaves for a reason, and none leaves unrecorded. -/
structure Unstranded (controller : Controller) : Prop where
  delivered : ∀ key turn, controller.states.get? key = some turn → turn.hasRealTool = true →
    ¬ controller.Served turn.ident → turn.publishedRevision ≤ turn.deliveredRevision
  removed : ∀ turn cause, .removed turn cause ∈ controller.log → turn.final = true →
    Warranted turn cause
  recorded : ∀ ident < controller.created,
    (∃ key turn, controller.states.get? key = some turn ∧ turn.ident = ident) ∨
      ∃ turn cause, .removed turn cause ∈ controller.log ∧ turn.ident = ident

/-- What a drain has to find for its step to leave nothing behind. Its callback must not
be lost while its turn is held; an early exit must not overlook a hook that published
meanwhile; the session of a final card must not fail to follow an edit that is not the
last one; and a drop by key must not hit a final turn that took the key over. -/
def Drain.Attends (controller : Controller) (drain : Drain) (world : World) : Prop :=
  match drain.point with
  | .queued =>
    ∀ entry ∈ controller.states.entries, entry.2.ident = drain.owner →
      (controller.adapters drain.adapter).disconnecting = false ∧ world.starts = true
  | .working snap .idling =>
    ∀ turn ∈ controller.current? drain.key snap,
      turn.hasRealTool = true ∨ turn.final = true → turn.publishedRevision ≤ snap.revision
  | .working snap .delivered =>
    ∀ turn ∈ controller.current? drain.key snap, turn.final = true →
      turn.revision ≠ snap.revision →
        (Controller.syncCurrent turn snap true world.synced).isSome
  | .working snap (.dropping _) =>
    ∀ turn ∈ controller.states.get? drain.key, turn.ident = snap.ident ∨ turn.final = false
  | _ => True

instance (controller : Controller) (drain : Drain) (world : World) :
    Decidable (drain.Attends controller world) :=
  match drain with
  | ⟨_, _, _, _, .queued⟩ => by change Decidable (∀ entry, _ → _); infer_instance
  | ⟨_, _, _, _, .working _ .idling⟩ => by change Decidable (∀ turn, _ → _); infer_instance
  | ⟨_, _, _, _, .working _ .delivered⟩ => by change Decidable (∀ turn, _ → _); infer_instance
  | ⟨_, _, _, _, .working _ (.dropping _)⟩ => by change Decidable (∀ turn, _ → _); infer_instance
  | ⟨_, _, _, _, .looking _⟩ | ⟨_, _, _, _, .finished⟩ | ⟨_, _, _, _, .working _ .fetching⟩
  | ⟨_, _, _, _, .working _ (.choosing _)⟩ | ⟨_, _, _, _, .working _ .announcing⟩
  | ⟨_, _, _, _, .working _ .sending⟩ | ⟨_, _, _, _, .working _ (.posted _)⟩
  | ⟨_, _, _, _, .working _ (.awaiting _)⟩ | ⟨_, _, _, _, .working _ (.pausing _)⟩
  | ⟨_, _, _, _, .working _ .resting⟩ => .isTrue trivial

def Attentive (controller : Controller) (event : ProgressEvent) : Prop :=
  ∀ step ∈ event.drain?, ∀ drain ∈ controller.drains[step.1]?, drain.Attends controller step.2

instance (controller : Controller) (event : ProgressEvent) : Decidable (Attentive controller event) :=
  inferInstanceAs (Decidable (∀ step ∈ event.drain?, _))

/-- Nothing of the turn waits for a drain. -/
structure ProgressTurn.Settled (turn : ProgressTurn) : Prop where
  flag : turn.scheduled = false ∨ turn.final = true
  delivered : turn.hasRealTool = true → turn.publishedRevision ≤ turn.deliveredRevision

structure Tended (controller : Controller) : Prop where
  tended : ∀ key turn, controller.states.get? key = some turn →
    controller.Served turn.ident ∨ turn.Settled
  warranted : ∀ turn cause, .removed turn cause ∈ controller.log → turn.final = true →
    Warranted turn cause

/-- The same while a hook that has written one turn has yet to schedule it. -/
structure TendedBut (controller : Controller) (key : ProgressKey) : Prop where
  tended : ∀ other turn, key ≠ other → controller.states.get? other = some turn →
    controller.Served turn.ident ∨ turn.Settled
  warranted : ∀ turn cause, .removed turn cause ∈ controller.log → turn.final = true →
    Warranted turn cause

namespace TendedBut

variable {controller : Controller} {key : ProgressKey} {next : ProgressTurn}

theorem store (held : TendedBut controller key)
    (kept : controller.Served next.ident ∨ next.Settled) : Tended (controller.store key next) where
  tended := fun other found stored => by
    rw [Controller.store, Dict.get?_set] at stored
    split at stored
    · cases stored
      exact kept
    · rename_i elsewhere
      exact held.tended other found elsewhere stored
  warranted := held.warranted

theorem rewrite (held : TendedBut controller key) (next : ProgressTurn) :
    TendedBut (controller.store key next) key where
  tended := fun other found elsewhere stored => by
    rw [Controller.store, Dict.get?_set, if_neg elsewhere] at stored
    exact held.tended other found elsewhere stored
  warranted := held.warranted

/-- More drains serve no fewer turns. -/
theorem queue (held : TendedBut controller key) (drain : Drain) :
    TendedBut { controller with drains := controller.drains ++ [drain] } key where
  tended := fun other turn elsewhere stored => (held.tended other turn elsewhere stored).imp_left
    fun ⟨worker, member, live, serves⟩ => ⟨worker, List.mem_append_left _ member, live, serves⟩
  warranted := held.warranted

theorem drop (held : TendedBut controller key) {cause : Cause}
    (why : ∀ turn, controller.states.get? key = some turn → turn.final = true → Warranted turn cause)
    (discards : Bool) : Tended (controller.dropStateLocked key cause discards).2 := by
  have tended : ∀ other found,
      (controller.dropStateLocked key cause discards).2.states.get? other = some found →
      controller.Served found.ident ∨ found.Settled := by
    intro other found left
    rw [Controller.get?_dropStateLocked] at left
    split at left
    · cases left
    · rename_i elsewhere
      exact held.tended other found elsewhere left
  rw [Controller.dropStateLocked] at tended ⊢
  cases stored : controller.states.get? key with
  | none =>
    rw [stored] at tended
    exact ⟨tended, held.warranted⟩
  | some turn =>
    rw [stored] at tended
    refine ⟨tended, fun gone reason logged final => ?_⟩
    obtain same | before := List.mem_cons.mp logged
    · cases same
      generalize (turn.holdsCardSession && !discards) = raises at final ⊢
      cases raises with
      | true => exact why turn stored final
      | false =>
        have warranted := why turn stored final
        cases cause <;> exact warranted
    · exact held.warranted gone reason before final

end TendedBut

namespace Tended

variable {controller : Controller} {index : Nat} {drain : Drain} {snap : Snapshot}
  {key : ProgressKey} {turn next : ProgressTurn}

theorem start (adapters : Nat → AdapterStatus) : Tended (.start adapters) where
  tended := fun _ _ stored => by cases stored
  warranted := fun _ _ logged => by cases logged

theorem record (held : Tended controller) (entry : Record)
    (plain : ∀ turn cause, entry ≠ .removed turn cause) : Tended (controller.record entry) where
  tended := held.tended
  warranted := fun turn cause logged final => by
    obtain same | before := List.mem_cons.mp logged
    · exact absurd same.symm (plain turn cause)
    · exact held.warranted turn cause before final

theorem but (held : Tended controller) (key : ProgressKey) : TendedBut controller key :=
  ⟨fun other turn _ stored => held.tended other turn stored, held.warranted⟩

/-- A turn that is served or settled may be written back. -/
theorem store (held : Tended controller)
    (kept : controller.Served next.ident ∨ next.Settled) : Tended (controller.store key next) :=
  (held.but key).store kept

theorem drop (held : Tended controller) {cause : Cause}
    (why : ∀ turn, controller.states.get? key = some turn → turn.final = true → Warranted turn cause)
    (discards : Bool) : Tended (controller.dropStateLocked key cause discards).2 :=
  (held.but key).drop why discards

theorem insert (held : Tended controller) (key : ProgressKey) (adapter : Nat)
    (route : TrustedOctoRoute) (mode : Option DeliveryMode) (now : Int) :
    Tended (controller.insert adapter route key mode now) where
  tended := fun other found stored => by
    rw [get?_insert] at stored
    split at stored
    · cases stored
      exact .inr ⟨.inl rfl, fun real => by cases real⟩
    · exact held.tended other found stored
  warranted := held.warranted

/-- A drain that moves on still serves what it served, or leaves it settled. -/
theorem setDrain (held : Tended controller) (kept : Kept controller) {moved : Drain}
    (running : controller.drains[index]? = some drain)
    (served : ∀ turn, controller.states.get? drain.key = some turn → drain.Serves turn.ident →
      (moved.IsLive ∧ moved.Serves turn.ident) ∨ turn.Settled) :
    Tended (controller.setDrain index moved) where
  tended := fun other found stored => by
    obtain ⟨worker, member, live, serves⟩ | settled := held.tended other found stored
    · obtain ⟨place, there⟩ := List.mem_iff_getElem?.mp member
      by_cases same : place = index
      · subst same
        cases running.symm.trans there
        have here := kept.placed member stored serves
        rw [← here] at stored
        refine (served found stored serves).imp_left fun ⟨stillLive, stillServes⟩ => ?_
        have inside : place < controller.drains.length := (List.getElem?_eq_some_iff.mp there).1
        exact ⟨moved, List.mem_iff_getElem?.mpr ⟨place, by
          rw [Controller.setDrain, List.getElem?_set_self inside]⟩, stillLive, stillServes⟩
      · refine .inl ⟨worker, List.mem_iff_getElem?.mpr ⟨place, ?_⟩, live, serves⟩
        rw [Controller.setDrain, List.getElem?_set_ne (Ne.symm same), there]
    · exact .inr settled
  warranted := held.warranted

/-- A drain that goes on with its snapshot serves what it served. -/
theorem move (held : Tended controller) (kept : Kept controller) {moved : Drain}
    (running : controller.drains[index]? = some drain) (owner : moved.owner = drain.owner)
    (live : moved.IsLive) (state : moved.state? = drain.state?) :
    Tended (controller.setDrain index moved) := by
  refine held.setDrain kept running fun turn _ serves => .inl ⟨live, ?_⟩
  rw [Drain.Serves, owner, state]
  exact serves

/-- A drain ends when its turn has gone. -/
theorem finish_of_mismatch (held : Tended controller) (kept : Kept controller)
    (running : controller.drains[index]? = some drain) (holds : snap ∈ drain.state?)
    (mismatch : controller.current? drain.key snap = none) :
    Tended (controller.setDrain index drain.finish) := by
  have member : drain ∈ controller.drains := List.mem_of_getElem? running
  refine held.setDrain kept running fun turn stored serves => ?_
  have same : turn.ident = snap.ident := by
    obtain owner | ⟨other, taken, same⟩ := serves
    · rw [kept.loyal member holds stored owner.symm, owner]
    · cases holds.symm.trans taken
      exact same.symm
  rw [Controller.current?_eq_some.mpr ⟨stored, same⟩] at mismatch
  cases mismatch

/-- A drain writes the turn it serves. -/
theorem write (held : Tended controller) (running : controller.drains[index]? = some drain)
    (live : drain.IsLive) (serves : drain.Serves next.ident) :
    Tended (controller.write drain next) := by
  have served : controller.Served next.ident :=
    ⟨drain, List.mem_of_getElem? running, live, serves⟩
  exact (held.record (.changed drain.owner next.ident) (fun _ _ same => by cases same)).store
    (.inl served)

/-- A drain writes the turn of its snapshot and goes on with that snapshot. -/
theorem writeMove (held : Tended controller) (kept : Kept controller)
    (running : controller.drains[index]? = some drain) (live : drain.IsLive)
    (holds : snap ∈ drain.state?)
    (stored : controller.states.get? drain.key = some turn) (own : turn.ident = snap.ident)
    (origin : next.toTurnOrigin = turn.toTurnOrigin)
    (content : next.toTurnContent = turn.toTurnContent) {point : DrainPoint}
    (goesOn : point ≠ .finished) (state : (drain.moved point).state? = some snap) :
    Tended ((controller.write drain next).setDrain index (drain.moved point)) := by
  have ident : snap.ident = next.ident := by
    rw [origin]
    exact own.symm
  have written := held.write running live (.inr ⟨snap, holds, ident⟩)
  exact written.move (kept.write stored origin content) running rfl goesOn (state.trans holds.symm)

/-- After a drop under its key a drain may move on anyhow: it serves no turn there. -/
theorem dropMove (held : Tended controller) (kept : Kept controller)
    (running : controller.drains[index]? = some drain) {cause : Cause}
    (why : ∀ turn, controller.states.get? drain.key = some turn → turn.final = true →
      Warranted turn cause) (discards : Bool) (moved : Drain) :
    Tended ((controller.dropStateLocked drain.key cause discards).2.setDrain index moved) := by
  have still : (controller.dropStateLocked drain.key cause discards).2.drains[index]? =
      some drain := by
    rw [Controller.drains_dropStateLocked, running]
  refine (held.drop why discards).setDrain (kept.drop drain.key cause discards) still ?_
  intro turn stored _
  rw [Controller.get?_dropStateLocked, if_pos rfl] at stored
  cases stored

theorem dropByKey (held : Tended controller) (kept : Kept controller)
    (running : controller.drains[index]? = some drain)
    (own : ∀ turn, controller.states.get? drain.key = some turn →
      turn.ident = snap.ident ∨ turn.final = false) (reason : DropReason) (discards : Bool) :
    Tended (controller.dropByKey index drain snap reason discards) := by
  have why : ∀ turn, controller.states.get? drain.key = some turn → turn.final = true →
      Warranted turn (.gaveUp drain.owner snap reason) := by
    intro turn stored final
    obtain same | unfinished := own turn stored
    · exact same.symm
    · rw [unfinished] at final
      cases final
  obtain ⟨next, _, same⟩ := controller.dropByKey_ends index drain snap reason discards
  rw [same]
  exact held.dropMove kept running why discards next

/-- A drain leaves a turn that is delivered as published. -/
theorem leave (held : Tended controller) (kept : Kept controller)
    (running : controller.drains[index]? = some drain) (live : drain.IsLive)
    (holds : snap ∈ drain.state?)
    (stored : controller.states.get? drain.key = some turn) (own : turn.ident = snap.ident)
    (origin : next.toTurnOrigin = turn.toTurnOrigin)
    (content : next.toTurnContent = turn.toTurnContent)
    (delivered : next.hasRealTool = true → next.publishedRevision ≤ next.deliveredRevision)
    {cause : Cause} (why : next.final = true → Warranted { next with scheduled := false } cause)
    (inTry discards : Bool) :
    Tended (controller.leave index drain snap cause next inTry discards) := by
  have ident : snap.ident = next.ident := by
    rw [origin]
    exact own.symm
  have left : Tended (controller.write drain { next with scheduled := false }) :=
    held.write running live (.inr ⟨snap, holds, ident⟩)
  have order : Kept (controller.write drain { next with scheduled := false }) :=
    kept.write stored origin content
  have now : (controller.write drain { next with scheduled := false }).states.get? drain.key =
      some { next with scheduled := false } := Dict.get?_set_self _ _ _
  have runningLeft : (controller.write drain { next with scheduled := false }).drains[index]? =
      some drain := running
  have leaving := controller.leaving index drain snap cause next inTry discards
  generalize controller.leave index drain snap cause next inTry discards = after at leaving ⊢
  cases leaving with
  | dropped final =>
    refine left.dropMove order runningLeft (fun found there _ => ?_) discards _
    cases now.symm.trans there
    exact why final
  | left =>
    refine left.setDrain order runningLeft fun found there _ => .inr ?_
    cases now.symm.trans there
    exact ⟨.inl rfl, delivered⟩

theorem look (held : Tended controller) (kept : Kept controller)
    (running : controller.drains[index]? = some drain) (world : World) :
    Tended (controller.look index drain world) := by
  rw [Controller.look]
  cases stored : controller.states.get? drain.key with
  | none =>
    refine held.setDrain kept running fun turn there _ => ?_
    rw [stored] at there
    cases there
  | some turn =>
    dsimp only
    split
    · exact held.dropMove kept running (fun _ _ _ => by trivial) world.discards _
    · have read : Tended ((controller.record (.read drain.owner turn.ident)).setDrain index
          (drain.moved (.working (turn.snapshot world.now)
            ((turn.snapshot world.now).stage world.renders)))) := by
        refine (held.record _ (fun _ _ same => by cases same)).setDrain (kept.record _) running ?_
        intro found there _
        cases stored.symm.trans there
        refine .inl ⟨?_, .inr ⟨turn.snapshot world.now, rfl, rfl⟩⟩
        intro same
        cases same
      split
      · exact read.record _ (fun _ _ same => by cases same)
      · exact read

theorem choose (held : Tended controller) (kept : Kept controller)
    (running : controller.drains[index]? = some drain) (live : drain.IsLive)
    (holds : snap ∈ drain.state?) (selected : Option TemplateRef) :
    Tended (controller.choose index drain snap selected) := by
  rw [Controller.choose]
  cases current : controller.current? drain.key snap with
  | none => exact held.finish_of_mismatch kept running holds current
  | some turn =>
    obtain ⟨stored, own⟩ := Controller.current?_eq_some.mp current
    exact held.writeMove kept running live holds stored own (by rfl) (by rfl) (by simp) (by rfl)

theorem idle (held : Tended controller) (kept : Kept controller)
    (running : controller.drains[index]? = some drain) (live : drain.IsLive)
    (holds : snap ∈ drain.state?)
    (seen : ∀ turn, controller.current? drain.key snap = some turn →
      turn.hasRealTool = true ∨ turn.final = true → turn.publishedRevision ≤ snap.revision)
    (discards : Bool) : Tended (controller.idle index drain snap discards) := by
  rw [Controller.idle]
  cases current : controller.current? drain.key snap with
  | none => exact held.finish_of_mismatch kept running holds current
  | some turn =>
    obtain ⟨stored, own⟩ := Controller.current?_eq_some.mp current
    have below := kept.older (List.mem_of_getElem? running) holds stored own
    refine held.leave kept running live holds stored own (by rfl) (by rfl) ?_ ?_ true discards
    · intro real
      exact seen turn current (.inl real)
    · intro final
      -- a final turn was published last at the revision it has
      have published := (kept.sound stored).final final
      have overlooked := seen turn current (.inr final)
      refine ⟨own.symm, ?_⟩
      dsimp only
      omega

theorem announce (held : Tended controller) (kept : Kept controller)
    (running : controller.drains[index]? = some drain) (live : drain.IsLive)
    (holds : snap ∈ drain.state?) : Tended (controller.announce index drain snap) := by
  rw [Controller.announce]
  cases current : controller.current? drain.key snap with
  | none => exact held.finish_of_mismatch kept running holds current
  | some turn =>
    obtain ⟨stored, own⟩ := Controller.current?_eq_some.mp current
    have announced : Tended ((controller.write drain { turn with sendStarted := true }).setDrain
        index (drain.moved (.working snap .sending))) :=
      held.writeMove kept running live holds stored own (by rfl) (by rfl) (by simp) (by rfl)
    exact announced.record (.sent drain.owner snap) (fun _ _ same => by cases same)

/-- What is delivered at the revision the turn has is delivered as published. -/
theorem published_le (kept : Kept controller) (stored : controller.states.get? key = some turn)
    (same : turn.revision = snap.revision) : turn.publishedRevision ≤ snap.revision := by
  have sound := (kept.sound stored).published
  omega

theorem post (held : Tended controller) (kept : Kept controller)
    (running : controller.drains[index]? = some drain) (live : drain.IsLive)
    (holds : snap ∈ drain.state?) (messageId : PyStr) (world : World) :
    Tended (controller.post index drain snap messageId world) := by
  have posting := controller.posting index drain snap messageId world
  generalize controller.post index drain snap messageId world = after at posting ⊢
  cases posting with
  | mismatch gone => exact held.finish_of_mismatch kept running holds gone
  | unsynced current =>
    obtain ⟨stored, own⟩ := Controller.current?_eq_some.mp current
    exact held.writeMove kept running live holds stored own (by rfl) (by rfl) (by simp) (by rfl)
  | settled current same =>
    obtain ⟨stored, own⟩ := Controller.current?_eq_some.mp current
    have below := published_le kept stored same
    refine held.leave kept running live holds stored own (by rfl) (by rfl) ?_ ?_ true world.discards
    · exact fun _ => below
    · exact fun _ => ⟨own.symm, same.symm⟩
  | again current =>
    obtain ⟨stored, own⟩ := Controller.current?_eq_some.mp current
    exact held.writeMove kept running live holds stored own (by rfl) (by rfl) (by simp) (by rfl)

theorem commit (held : Tended controller) (kept : Kept controller)
    (running : controller.drains[index]? = some drain) (live : drain.IsLive)
    (holds : snap ∈ drain.state?) (world : World)
    (syncs : ∀ turn, controller.current? drain.key snap = some turn →
      turn.final = true → turn.revision ≠ snap.revision →
        (Controller.syncCurrent turn snap true world.synced).isSome) :
    Tended (controller.commit index drain snap world) := by
  have committing := controller.committing index drain snap world
  generalize controller.commit index drain snap world = after at committing ⊢
  cases committing with
  | mismatch gone => exact held.finish_of_mismatch kept running holds gone
  | @unsynced turn current final raised =>
    obtain ⟨stored, own⟩ := Controller.current?_eq_some.mp current
    -- the coroutine ends with its flag set: nothing may be missing by now
    have same : turn.revision = snap.revision := by
      by_cases same : turn.revision = snap.revision
      · exact same
      · have follows := syncs turn current final same
        rw [raised] at follows
        cases follows
    have below := published_le kept stored same
    have written : Tended (controller.write drain { turn with
        cardSeq := snap.nextSeq, deliveredRevision := (snap.revision : Int) }) :=
      held.write running live (.inr ⟨snap, holds, own.symm⟩)
    refine written.setDrain (kept.write stored (by rfl) (by rfl)) running fun found there _ => .inr ?_
    cases (Dict.get?_set_self _ _ _).symm.trans there
    exact ⟨.inr final, fun _ => below⟩
  | settled current same =>
    obtain ⟨stored, own⟩ := Controller.current?_eq_some.mp current
    have below := published_le kept stored same
    refine held.leave kept running live holds stored own (by rfl) (by rfl) ?_ ?_ false world.discards
    · exact fun _ => below
    · exact fun _ => ⟨own.symm, same.symm⟩
  | again current =>
    obtain ⟨stored, own⟩ := Controller.current?_eq_some.mp current
    exact held.writeMove kept running live holds stored own (by rfl) (by rfl) (by simp) (by rfl)

theorem advance (held : Tended controller) (kept : Kept controller)
    (running : controller.drains[index]? = some drain) (world : World)
    (attends : drain.Attends controller world) :
    Tended (controller.advance index drain world) := by
  rw [Controller.advance]
  rw [Drain.Attends] at attends
  cases point : drain.point with
  | queued =>
    rw [point] at attends
    dsimp only at attends ⊢
    rw [Controller.spawn]
    have unread : drain.state? = none := by rw [Drain.state?, point]
    split
    · rename_i lost
      refine held.setDrain kept running fun turn stored serves => ?_
      obtain owner | ⟨snap, taken, _⟩ := serves
      · have member := (Dict.mem_entries_iff controller.states drain.key turn).mpr stored
        obtain ⟨connected, starts⟩ := attends (drain.key, turn) member owner.symm
        simp [connected, starts] at lost
      · rw [unread] at taken
        cases taken
    · exact held.move kept running rfl (fun same => by cases same) unread.symm
  | looking last => exact held.look kept running world
  | finished => exact held
  | working snap stage =>
    have holds : snap ∈ drain.state? := by
      rw [Drain.state?, point]
      exact rfl
    have live : drain.IsLive := by
      intro finished
      rw [point] at finished
      cases finished
    have goesOn : ∀ moved : Drain, moved.owner = drain.owner → moved.IsLive →
        moved.state? = some snap → Tended (controller.setDrain index moved) :=
      fun moved owner stillLive state =>
        held.move kept running owner stillLive (state.trans holds.symm)
    rw [point] at attends
    cases stage with
    | fetching => exact goesOn _ rfl (fun same => by cases same) rfl
    | choosing selected => exact held.choose kept running live holds selected
    | idling => exact held.idle kept running live holds attends world.discards
    | announcing => exact held.announce kept running live holds
    | sending => exact goesOn _ rfl (fun same => by cases same) rfl
    | posted messageId => exact held.post kept running live holds messageId world
    | awaiting attempt =>
      obtain ⟨exhaustions, stage, same⟩ := drain.editAnswered_eq snap attempt world.edited
      dsimp only
      rw [same]
      exact goesOn _ rfl (fun same => by cases same) rfl
    | pausing attempt =>
      have moved := goesOn (drain.moved (.working snap (.awaiting (attempt + 1)))) rfl
        (fun same => by cases same) rfl
      exact moved.record (.edited drain.owner snap) (fun _ _ same => by cases same)
    | resting => exact held.look kept running world
    | delivered => exact held.commit kept running live holds world attends
    | dropping reason => exact held.dropByKey kept running attends reason world.discards

theorem amend (held : Tended controller) (stored : controller.states.get? key = some turn)
    (unfinished : turn.final = false) {amended : Amended} (admits : turn.Admits amended)
    (discards : Bool) : Tended (controller.amend key discards amended) := by
  have before := held.tended key turn stored
  cases amended with
  | kept => exact held
  | quiet next =>
    refine held.store ?_
    rw [admits.ident]
    refine before.imp_right fun settled => ?_
    have flag : next.scheduled = false := by
      rw [admits.delivery]
      exact settled.flag.resolve_right (by rw [unfinished]; exact Bool.false_ne_true)
    refine ⟨.inl flag, fun real => ?_⟩
    rw [admits.published, admits.delivery]
    exact settled.delivered (admits.real real)
  | published next =>
    obtain ⟨amends, _⟩ := admits
    have ident : next.publish.ident = turn.ident := amends.ident
    have scheduledBefore : next.publish.scheduled = turn.scheduled := by
      rw [← congrArg TurnDelivery.scheduled amends.delivery]
      rfl
    have scheduling := Controller.scheduling
      (by exact Dict.get?_set_self controller.states key next.publish :
        (controller.store key next.publish).states.get? key = some next.publish) discards
    rw [Controller.amend]
    generalize (controller.store key next.publish).scheduleLocked key discards = after
      at scheduling ⊢
    cases scheduling with
    | nothing idle =>
      refine held.store ?_
      rw [ident]
      refine before.imp_right fun settled => ?_
      -- an unfinished settled turn is not scheduled, so it has no real tool yet
      have flag : turn.scheduled = false :=
        settled.flag.resolve_right (by rw [unfinished]; exact Bool.false_ne_true)
      obtain scheduled | ⟨unreal, _⟩ := idle
      · rw [scheduledBefore, flag] at scheduled
        cases scheduled
      · refine ⟨.inl (scheduledBefore.trans flag), fun real => ?_⟩
        rw [unreal] at real
        cases real
    | dropped cause why =>
      refine ((held.but key).rewrite next.publish).drop (fun found there _ => ?_) discards
      cases (Dict.get?_set_self _ _ _).symm.trans there
      obtain ⟨same, unreal⟩ | same := why
      · rw [same]
        exact unreal
      · rw [same]
        trivial
    | queued unscheduled =>
      have waiting := ((held.but key).rewrite next.publish).queue
        ⟨key, next.ident, next.adapter, 0, .queued⟩
      refine waiting.store (.inl ⟨_, List.mem_append_right _ (List.mem_singleton_self _), ?_, ?_⟩)
      · intro same
        cases same
      · exact .inl rfl

theorem dropAll (held : Tended controller) (discards : ProgressKey → Bool)
    (keys : List ProgressKey) : Tended (Controller.dropAll discards keys controller) := by
  induction keys generalizing controller with
  | nil => exact held
  | cons first rest ih =>
    rw [Controller.dropAll]
    have dropped : Tended (controller.dropStateLocked first .cancelled (discards first)).2 :=
      held.drop (fun _ _ _ => by trivial) (discards first)
    generalize controller.dropStateLocked first .cancelled (discards first) = drop at dropped ⊢
    obtain ⟨raises, after⟩ := drop
    cases raises with
    | true => exact dropped
    | false => exact ih dropped

/-- Every step of an attentive run leaves the turns tended. -/
theorem step (held : Tended controller) (kept : Kept controller) (event : ProgressEvent)
    (attends : Attentive controller event) : Tended (progressStep controller event) := by
  have happening := Controller.happening kept event
  generalize progressStep controller event = after at happening ⊢
  cases happening with
  | nothing => exact held
  | amended stored unfinished admits => exact held.amend stored unfinished admits _
  | begun => exact held.insert _ _ _ _ _
  | @unsent _ key turn now discards stored unfinished beyond =>
    have inserted := held.insert { key with segmentNo := key.segmentNo + 1 } turn.adapter
      turn.route turn.deliveryMode now
    refine inserted.drop (fun found there final => ?_) discards
    rw [get?_insert_next, stored] at there
    cases there
    rw [unfinished] at final
    cases final
  | @stopped _ key turn now discards stored unfinished beyond =>
    have inserted := held.insert { key with segmentNo := key.segmentNo + 1 } turn.adapter
      turn.route turn.deliveryMode now
    have still := (get?_insert_next turn.adapter turn.route turn.deliveryMode now).trans stored
    exact inserted.amend still unfinished (turn.stopped_admits now) discards
  | cancelled => exact held.dropAll _ _
  | adapter => exact ⟨held.tended, held.warranted⟩
  | advanced running => exact held.advance kept running _ (attends _ rfl _ running)

theorem unstranded (held : Tended controller) (kept : Kept controller) : Unstranded controller where
  delivered := fun key turn stored real unserved =>
    ((held.tended key turn stored).resolve_left unserved).delivered real
  removed := held.warranted
  recorded := fun _ below => kept.recorded below

end Tended

/-- Over every run whose drains find what they have to, no update is stranded. -/
theorem progressRun_unstranded (adapters : Nat → AdapterStatus) (events : List ProgressEvent)
    (attentive : (progressMachine adapters).Along Attentive events) :
    Unstranded ((progressMachine adapters).run events) := by
  have both := @Machine.invariant_of_along _ _ (progressMachine adapters) Attentive events
    (fun controller => Kept controller ∧ Tended controller)
    ⟨Kept.start adapters, Tended.start adapters⟩
    (fun _ event held attends => ⟨held.1.step event, held.2.step held.1 event attends⟩) attentive
  exact both.2.unstranded both.1

/-- A card is sent while a second tool starts, edited at the second attempt while the
turn ends, and edited once more. -/
def deliveredRun : List ProgressEvent :=
  [.begin false 0 sampleRoute (py "s") (py "t") 0 true,
    .toolStarted (py "s") (py "t") (sampleTool "1") true] ++
  List.replicate 6 (.drain 0 .fine) ++
  [.toolStarted (py "s") (py "t") (sampleTool "2") true] ++
  List.replicate 3 (.drain 0 .fine) ++
  [.drain 0 { World.fine with edited := .raised (.api (some 503)) }, .drain 0 .fine,
    .complete (py "s") (py "t") false [] 0 true] ++
  List.replicate 5 (.drain 0 .fine)

theorem progressRun_unstranded_delivered :
    Unstranded ((progressMachine onlineAdapters).run deliveredRun) := by
  have follows : (progressMachine onlineAdapters).Follows Attentive
      (progressMachine onlineAdapters).start deliveredRun := by
    decide +kernel
  exact progressRun_unstranded onlineAdapters deliveredRun (Machine.along_of_follows follows)

/-- A registry card shows the last 32 steps. Once they are all thinking, a drain finds
nothing to render; a tool that starts before the drain has noted so is never shown. -/
def strandedRun : List ProgressEvent :=
  [.begin false 0 sampleRoute (py "s") (py "t") 0 true,
    .toolStarted (py "s") (py "t") (sampleTool "1") true] ++
  List.replicate 8 (.drain 0 .registry) ++
  List.replicate 32 (.modelStarted (py "s") (py "t") [] [] 0 true) ++
  [.modelFinished (py "s") (py "t") ⟨[], [], none, false, false, 0⟩ true,
    .drain 1 .registry, .drain 1 .registry,
    .toolStarted (py "s") (py "t") (sampleTool "2") true,
    .drain 1 .registry]

theorem strandedRun_not_unstranded :
    ¬ Unstranded ((progressMachine onlineAdapters).run strandedRun) := by
  intro unstranded
  have waiting : (((progressMachine onlineAdapters).run strandedRun).states.entries.any fun entry =>
      entry.2.hasRealTool &&
        !((progressMachine onlineAdapters).run strandedRun).Served entry.2.ident &&
        entry.2.deliveredRevision < entry.2.publishedRevision) = true := by
    decide +kernel
  obtain ⟨entry, member, late⟩ := List.any_eq_true.mp waiting
  simp only [Bool.and_eq_true, Bool.not_eq_true', decide_eq_true_eq, decide_eq_false_iff_not] at late
  obtain ⟨⟨real, unserved⟩, behind⟩ := late
  have stored := (Dict.mem_entries_iff _ entry.1 entry.2).mp member
  have delivered := unstranded.delivered entry.1 entry.2 stored real unserved
  exact absurd delivered (Int.not_le.mpr behind)

end OctoChannel.Progress

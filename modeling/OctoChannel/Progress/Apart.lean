import OctoChannel.Progress.Reachable

/-! Whether the drains of two turns that were stored under one key stay apart. A drain
finds its turn again by key, and keys are used again once their turns have gone. -/

namespace OctoChannel.Progress

open Foundation Identity

/-- The drain reads, writes, sends for and drops only the turn it was scheduled for. -/
def Record.Own : Record → Prop
  | .read owner ident | .changed owner ident => ident = owner
  | .sent owner snap | .edited owner snap => snap.ident = owner
  | .removed turn cause => ∀ owner ∈ cause.owner?, turn.ident = owner

instance : (entry : Record) → Decidable entry.Own
  | .read _ _ | .changed _ _ => by unfold Record.Own; infer_instance
  | .sent _ _ | .edited _ _ => by unfold Record.Own; infer_instance
  | .removed _ _ => by unfold Record.Own; infer_instance

/-- The edits of the card of one turn, newest first. -/
def edits (ident : Nat) : List Record → List Snapshot
  | [] => []
  | .edited _ snap :: rest => if snap.ident = ident then snap :: edits ident rest else edits ident rest
  | _ :: rest => edits ident rest

variable {Card : Type} (render : Snapshot → Card)

/-- The same card goes to the same message under the same number; `render` is what an edit
carries besides. -/
structure SameEdit (first second : Snapshot) : Prop where
  message : first.messageId = second.messageId
  number : first.nextSeq = second.nextSeq
  card : render first = render second

/-- Read from the oldest: the numbers of one card are 1, 2, 3, and so on, and a number
comes again only with the same edit. -/
def Numbered : List Snapshot → Prop
  | [] => True
  | [first] => first.nextSeq = 1
  | next :: last :: rest =>
    (SameEdit render next last ∨
      (next.messageId = last.messageId ∧ next.nextSeq = last.nextSeq + 1)) ∧
      Numbered (last :: rest)

structure DrainsApart (controller : Controller) : Prop where
  alone : ∀ (first second : Nat) (drain other : Drain) (ident : Nat),
    controller.drains[first]? = some drain → controller.drains[second]? = some other →
    drain.IsLive → other.IsLive → drain.Serves ident → other.Serves ident → first = second
  own : ∀ entry ∈ controller.log, entry.Own
  numbered : ∀ ident, Numbered render (edits ident controller.log)

/-- A drain that reads the turn drops it: the adapter is gone, or rendering raises. -/
def Controller.Drops (controller : Controller) (turn : ProgressTurn) (world : World) : Prop :=
  (controller.adapters turn.adapter).disconnecting = true ∨
    (controller.adapters turn.adapter).httpSession = false ∨
      (turn.snapshot world.now).stage world.renders = .dropping .failed

instance (controller : Controller) (turn : ProgressTurn) (world : World) :
    Decidable (controller.Drops turn world) :=
  inferInstanceAs (Decidable (_ ∨ _ ∨ _))

/-- Where a drain goes back to its key, the key holds no turn but the one it was
scheduled for; and after a round of failed edits that turn, at the elapsed time it has now,
still shows the same card, unless it is dropped now. -/
def Drain.FindsOwn (controller : Controller) (drain : Drain) (world : World) : Prop :=
  match drain.point with
  | .looking _ => ∀ turn ∈ controller.states.get? drain.key, turn.ident = drain.owner
  | .working snap .resting =>
    ∀ turn ∈ controller.states.get? drain.key, turn.ident = drain.owner ∧
      ((turn.snapshot world.now).stage true = .awaiting 0 ∧
          render (turn.snapshot world.now) = render snap ∨
        controller.Drops turn world)
  | .working _ (.dropping _) =>
    ∀ turn ∈ controller.states.get? drain.key, turn.ident = drain.owner
  | _ => True

instance [DecidableEq Card] (controller : Controller) (drain : Drain) (world : World) :
    Decidable (drain.FindsOwn render controller world) :=
  match drain with
  | ⟨_, _, _, _, .looking _⟩ => by change Decidable (∀ turn, _ → _); infer_instance
  | ⟨_, _, _, _, .working _ .resting⟩ => by change Decidable (∀ turn, _ → _); infer_instance
  | ⟨_, _, _, _, .working _ (.dropping _)⟩ => by change Decidable (∀ turn, _ → _); infer_instance
  | ⟨_, _, _, _, .queued⟩ | ⟨_, _, _, _, .finished⟩ | ⟨_, _, _, _, .working _ .fetching⟩
  | ⟨_, _, _, _, .working _ (.choosing _)⟩ | ⟨_, _, _, _, .working _ .idling⟩
  | ⟨_, _, _, _, .working _ .announcing⟩ | ⟨_, _, _, _, .working _ .sending⟩
  | ⟨_, _, _, _, .working _ (.posted _)⟩ | ⟨_, _, _, _, .working _ (.awaiting _)⟩
  | ⟨_, _, _, _, .working _ (.pausing _)⟩ | ⟨_, _, _, _, .working _ .delivered⟩ => .isTrue trivial

def Faithful (controller : Controller) (event : ProgressEvent) : Prop :=
  ∀ step ∈ event.drain?, ∀ drain ∈ controller.drains[step.1]?, drain.FindsOwn render controller step.2

instance [DecidableEq Card] (controller : Controller) (event : ProgressEvent) :
    Decidable (Faithful render controller event) :=
  inferInstanceAs (Decidable (∀ step ∈ event.drain?, _))

def Stage.isEditing : Stage → Bool
  | .awaiting _ | .pausing _ | .resting | .delivered => true
  | _ => false

def Stage.isSending : Stage → Bool
  | .announcing | .sending | .posted _ => true
  | _ => false

def Stage.isDropping : Stage → Bool
  | .dropping _ => true
  | _ => false

namespace Snapshot

variable (snap : Snapshot)

/-- Taken again, the snapshot leads to an edit again. -/
structure Editable : Prop where
  message : snap.messageId ≠ none
  stage : snap.stage true = .awaiting 0

/-- The turn has still been delivered as far as the snapshot says. -/
structure Agrees (turn : ProgressTurn) : Prop where
  cardSeq : turn.cardSeq + 1 = snap.nextSeq
  messageId : turn.messageId = snap.messageId
  deliveryMode : turn.deliveryMode = snap.deliveryMode

end Snapshot

namespace Drain

variable (drain : Drain)

/-- What the drain is about to do with the card follows from what was done with it. -/
def Fits (done : List Snapshot) : Prop :=
  ∀ snap stage, drain.point = .working snap stage →
    (stage.isEditing = true → done.head? = some snap ∧ snap.Editable) ∧
      (stage.isSending = true → snap.messageId = none)

def Agrees (turn : ProgressTurn) : Prop :=
  ∀ snap stage, drain.point = .working snap stage → stage.isDropping = false → snap.Agrees turn

/-- The last edit may not have been counted yet, or the turn is about to go. -/
def IsPending : Prop :=
  ∃ snap stage, drain.point = .working snap stage ∧
    (stage.isEditing = true ∨ stage.isDropping = true)

theorem isLive_of_working {snap : Snapshot} {stage : Stage}
    (point : drain.point = .working snap stage) : drain.IsLive := by
  intro finished
  rw [point] at finished
  cases finished

theorem idle_finish (snap : Snapshot) (stage : Stage) : drain.finish.point ≠ .working snap stage := by
  intro same
  cases same

theorem idle_looking (last : Option Snapshot) (snap : Snapshot) (stage : Stage) :
    (drain.moved (.looking last)).point ≠ .working snap stage := by
  intro same
  cases same

end Drain

/-- The number of the last edit is the one the turn has counted. -/
def Counted (turn : ProgressTurn) : List Snapshot → Prop
  | [] => turn.cardSeq = 0
  | last :: _ =>
    last.nextSeq = turn.cardSeq ∧ turn.messageId = last.messageId ∧ last.messageId ≠ none

structure Apart (controller : Controller) : Prop where
  alone : ∀ {first second : Nat} {drain other : Drain}, controller.drains[first]? = some drain →
    controller.drains[second]? = some other → drain.IsLive → other.IsLive →
    drain.owner = other.owner → first = second
  flagged : ∀ {drain key turn}, drain ∈ controller.drains → drain.IsLive →
    controller.states.get? key = some turn → turn.ident = drain.owner → turn.scheduled = true
  holdsOwn : ∀ {drain snap}, drain ∈ controller.drains → snap ∈ drain.state? →
    snap.ident = drain.owner
  own : ∀ entry ∈ controller.log, entry.Own
  unborn : ∀ {ident}, controller.created ≤ ident → edits ident controller.log = []
  numbered : ∀ ident, Numbered render (edits ident controller.log)
  fits : ∀ {drain}, drain ∈ controller.drains → drain.Fits (edits drain.owner controller.log)
  agrees : ∀ {drain key turn}, drain ∈ controller.drains → controller.states.get? key = some turn →
    turn.ident = drain.owner → drain.Agrees turn
  counted : ∀ {key turn}, controller.states.get? key = some turn →
    (∃ drain ∈ controller.drains, drain.owner = turn.ident ∧ drain.IsPending) ∨
      Counted turn (edits turn.ident controller.log)

namespace Apart

variable {render : Snapshot → Card} {controller after : Controller} {index : Nat}
  {drain next : Drain} {snap : Snapshot} {key : ProgressKey} {turn : ProgressTurn}

theorem start (adapters : Nat → AdapterStatus) : Apart render (.start adapters) where
  alone := fun there => by cases there
  flagged := fun member => by cases member
  holdsOwn := fun member => by cases member
  own := fun _ member => by cases member
  unborn := fun _ => rfl
  numbered := fun _ => trivial
  fits := fun member => by cases member
  agrees := fun member => by cases member
  counted := fun stored => by cases stored

theorem drainsApart (apart : Apart render controller) : DrainsApart render controller where
  alone := fun first second drain other ident there here live otherLive serves otherServes => by
    have owner : ∀ {worker : Drain}, worker ∈ controller.drains → worker.Serves ident →
        worker.owner = ident := by
      intro worker member serving
      obtain same | ⟨snap, taken, same⟩ := serving
      · exact same
      · rw [← apart.holdsOwn member taken, same]
    refine apart.alone there here live otherLive ?_
    rw [owner (List.mem_of_getElem? there) serves, owner (List.mem_of_getElem? here) otherServes]
  own := apart.own
  numbered := apart.numbered

/-- What a step of one drain may change: itself, the turn it was scheduled for, and what
is recorded of that turn. -/
structure Turnover (render : Snapshot → Card) (controller after : Controller) (index : Nat)
    (drain next : Drain) : Prop where
  drains : after.drains = controller.drains.set index next
  created : after.created = controller.created
  owner : next.owner = drain.owner
  holdsOwn : ∀ snap ∈ next.state?, snap.ident = drain.owner
  states : ∀ key found, after.states.get? key = some found →
    found.ident = drain.owner ∨ controller.states.get? key = some found
  flagged : ∀ key found, after.states.get? key = some found → found.ident = drain.owner →
    next.IsLive → found.scheduled = true
  own : ∀ entry ∈ after.log, entry ∈ controller.log ∨ entry.Own
  others : ∀ ident, ident ≠ drain.owner → edits ident after.log = edits ident controller.log
  numbered : Numbered render (edits drain.owner after.log)
  fits : next.Fits (edits drain.owner after.log)
  agrees : ∀ key found, after.states.get? key = some found → found.ident = drain.owner →
    next.Agrees found
  counted : ∀ key found, after.states.get? key = some found → found.ident = drain.owner →
    next.IsPending ∨ Counted found (edits drain.owner after.log)

/-- Another live drain belongs to another turn. -/
theorem others (apart : Apart render controller) (running : controller.drains[index]? = some drain)
    (live : drain.IsLive) {place : Nat} {worker : Drain}
    (there : controller.drains[place]? = some worker) (elsewhere : index ≠ place)
    (working : worker.IsLive) : worker.owner ≠ drain.owner := by
  intro same
  exact elsewhere (apart.alone running there live working same.symm)

namespace Turnover

variable (change : Turnover render controller after index drain next)
include change

/-- The drain at a place is the one that moved, or it was there before. -/
private theorem drainAt (inside : index < controller.drains.length) {place : Nat} {worker : Drain}
    (there : after.drains[place]? = some worker) :
    (index = place ∧ worker = next) ∨
      (index ≠ place ∧ controller.drains[place]? = some worker) := by
  rw [change.drains] at there
  by_cases same : index = place
  · subst same
    rw [List.getElem?_set_self inside] at there
    exact .inl ⟨rfl, (Option.some.inj there).symm⟩
  · rw [List.getElem?_set_ne same] at there
    exact .inr ⟨same, there⟩

private theorem placed (inside : index < controller.drains.length) {worker : Drain}
    (member : worker ∈ after.drains) :
    worker = next ∨ ∃ place, index ≠ place ∧ controller.drains[place]? = some worker := by
  obtain ⟨place, there⟩ := List.mem_iff_getElem?.mp member
  obtain ⟨_, same⟩ | ⟨elsewhere, was⟩ := change.drainAt inside there
  · exact .inl same
  · exact .inr ⟨place, elsewhere, was⟩

private theorem stays {place : Nat} {worker : Drain} (elsewhere : index ≠ place)
    (there : controller.drains[place]? = some worker) : worker ∈ after.drains := by
  apply List.mem_iff_getElem?.mpr
  exact ⟨place, by rw [change.drains, List.getElem?_set_ne elsewhere, there]⟩

variable (apart : Apart render controller) (running : controller.drains[index]? = some drain)
  (live : drain.IsLive)
include apart running live

private theorem alone {first second : Nat} {worker other : Drain}
    (there : after.drains[first]? = some worker) (here : after.drains[second]? = some other)
    (working : worker.IsLive) (otherWorking : other.IsLive) (same : worker.owner = other.owner) :
    first = second := by
  have inside : index < controller.drains.length := (List.getElem?_eq_some_iff.mp running).1
  obtain ⟨same', isNext⟩ | ⟨elsewhere, was⟩ := change.drainAt inside there
  · obtain ⟨same'', _⟩ | ⟨otherElsewhere, otherWas⟩ := change.drainAt inside here
    · rw [← same', same'']
    · rw [isNext, change.owner] at same
      exact absurd same.symm (apart.others running live otherWas otherElsewhere otherWorking)
  · obtain ⟨_, otherNext⟩ | ⟨otherElsewhere, otherWas⟩ := change.drainAt inside here
    · rw [otherNext, change.owner] at same
      exact absurd same (apart.others running live was elsewhere working)
    · exact apart.alone was otherWas working otherWorking same

private theorem scheduled {worker : Drain} (member : worker ∈ after.drains)
    (working : worker.IsLive) (stored : after.states.get? key = some turn)
    (same : turn.ident = worker.owner) : turn.scheduled = true := by
  have inside : index < controller.drains.length := (List.getElem?_eq_some_iff.mp running).1
  obtain isNext | ⟨place, elsewhere, was⟩ := change.placed inside member
  · rw [isNext, change.owner] at same
    exact change.flagged key turn stored same (isNext ▸ working)
  · have different := apart.others running live was elsewhere working
    obtain own | before := change.states key turn stored
    · exact absurd (same.symm.trans own) different
    · exact apart.flagged (List.mem_of_getElem? was) working before same

private theorem stillFits {worker : Drain} (member : worker ∈ after.drains) :
    worker.Fits (edits worker.owner after.log) := by
  have inside : index < controller.drains.length := (List.getElem?_eq_some_iff.mp running).1
  obtain isNext | ⟨place, elsewhere, was⟩ := change.placed inside member
  · rw [isNext, change.owner]
    exact change.fits
  · intro snap stage point
    rw [change.others _ (apart.others running live was elsewhere (worker.isLive_of_working point))]
    exact apart.fits (List.mem_of_getElem? was) snap stage point

private theorem stillAgrees {worker : Drain} (member : worker ∈ after.drains)
    (stored : after.states.get? key = some turn) (same : turn.ident = worker.owner) :
    worker.Agrees turn := by
  have inside : index < controller.drains.length := (List.getElem?_eq_some_iff.mp running).1
  obtain isNext | ⟨place, elsewhere, was⟩ := change.placed inside member
  · rw [isNext, change.owner] at same
    exact isNext ▸ change.agrees key turn stored same
  · intro snap stage point kind
    have different := apart.others running live was elsewhere (worker.isLive_of_working point)
    obtain own | before := change.states key turn stored
    · exact absurd (same.symm.trans own) different
    · exact apart.agrees (List.mem_of_getElem? was) before same snap stage point kind

omit live in
private theorem stillCounted (stored : after.states.get? key = some turn) :
    (∃ worker ∈ after.drains, worker.owner = turn.ident ∧ worker.IsPending) ∨
      Counted turn (edits turn.ident after.log) := by
  have inside : index < controller.drains.length := (List.getElem?_eq_some_iff.mp running).1
  by_cases own : turn.ident = drain.owner
  · have moved : next ∈ after.drains :=
      List.mem_iff_getElem?.mpr ⟨index, by rw [change.drains, List.getElem?_set_self inside]⟩
    rw [own]
    refine (change.counted key turn stored own).imp_left fun pending => ?_
    exact ⟨next, moved, change.owner, pending⟩
  · have before := (change.states key turn stored).resolve_left own
    rw [change.others _ own]
    refine (apart.counted before).imp_left fun ⟨worker, member, same, pending⟩ => ?_
    obtain ⟨place, there⟩ := List.mem_iff_getElem?.mp member
    refine ⟨worker, change.stays (fun here => own ?_) there, same, pending⟩
    subst here
    cases running.symm.trans there
    exact same.symm

end Turnover

theorem turnover (apart : Apart render controller) (kept : Kept controller)
    (running : controller.drains[index]? = some drain) (live : drain.IsLive)
    (change : Turnover render controller after index drain next) : Apart render after := by
  have inside : index < controller.drains.length := (List.getElem?_eq_some_iff.mp running).1
  have known : drain.owner < controller.created :=
    kept.served (List.mem_of_getElem? running) (.inl rfl)
  constructor
  case alone => exact change.alone apart running live
  case flagged => exact change.scheduled apart running live
  case holdsOwn =>
    intro worker snap member taken
    obtain isNext | ⟨place, _, was⟩ := change.placed inside member
    · rw [isNext, change.owner]
      exact change.holdsOwn snap (isNext ▸ taken)
    · exact apart.holdsOwn (List.mem_of_getElem? was) taken
  case own =>
    intro entry logged
    exact (change.own entry logged).elim (apart.own entry) id
  case unborn =>
    intro ident later
    rw [change.created] at later
    rw [change.others ident (by omega)]
    exact apart.unborn later
  case numbered =>
    intro ident
    by_cases same : ident = drain.owner
    · rw [same]
      exact change.numbered
    · rw [change.others ident same]
      exact apart.numbered ident
  case fits => exact change.stillFits apart running live
  case agrees => exact change.stillAgrees apart running live
  case counted => exact change.stillCounted apart running

theorem edits_dropStateLocked (ident : Nat) (key : ProgressKey) (cause : Cause) (discards : Bool) :
    edits ident (controller.dropStateLocked key cause discards).2.log = edits ident controller.log := by
  rw [Controller.dropStateLocked]
  split <;> rfl

/-- The turn a drain was scheduled for is under the key of the drain, if anywhere. -/
theorem here (kept : Kept controller) (running : controller.drains[index]? = some drain)
    (stored : controller.states.get? key = some turn) (own : turn.ident = drain.owner) :
    drain.key = key :=
  kept.placed (List.mem_of_getElem? running) stored (.inl own.symm)

theorem counted_of_settled (apart : Apart render controller)
    (running : controller.drains[index]? = some drain) (live : drain.IsLive)
    (settled : ¬ drain.IsPending) (stored : controller.states.get? key = some turn)
    (own : turn.ident = drain.owner) : Counted turn (edits drain.owner controller.log) := by
  obtain ⟨worker, member, same, pending⟩ | counted := apart.counted stored
  · obtain ⟨place, there⟩ := List.mem_iff_getElem?.mp member
    obtain ⟨snap, stage, point, _⟩ := id pending
    have working : worker.IsLive := by
      intro finished
      rw [point] at finished
      cases finished
    have here := apart.alone running there live working (own.symm.trans same.symm)
    subst here
    cases running.symm.trans there
    exact absurd pending settled
  · rwa [own] at counted

/-- The drain moves on and nothing else changes. -/
theorem move (apart : Apart render controller) (kept : Kept controller)
    (running : controller.drains[index]? = some drain) (live : drain.IsLive)
    (owner : next.owner = drain.owner) (holdsOwn : ∀ snap ∈ next.state?, snap.ident = drain.owner)
    (fits : next.Fits (edits drain.owner controller.log))
    (mine : ∀ turn, controller.states.get? drain.key = some turn → turn.ident = drain.owner →
      next.Agrees turn ∧ (next.IsPending ∨ Counted turn (edits drain.owner controller.log))) :
    Apart render (controller.setDrain index next) := by
  have found : ∀ key turn, controller.states.get? key = some turn → turn.ident = drain.owner →
      next.Agrees turn ∧ (next.IsPending ∨ Counted turn (edits drain.owner controller.log)) := by
    intro key turn stored own
    have there := here kept running stored own
    exact mine turn (there ▸ stored) own
  have change : Turnover render controller (controller.setDrain index next) index drain next := {
    drains := rfl
    created := rfl
    owner := owner
    holdsOwn := holdsOwn
    states := fun _ _ stored => .inr stored
    flagged := fun _ _ stored own _ => apart.flagged (List.mem_of_getElem? running) live stored own
    own := fun _ logged => .inl logged
    others := fun _ _ => rfl
    numbered := apart.numbered _
    fits := fits
    agrees := fun key turn stored own => (found key turn stored own).1
    counted := fun key turn stored own => (found key turn stored own).2 }
  exact apart.turnover kept running live change

/-- The drain writes the turn it was scheduled for and moves on. -/
theorem writeMove (apart : Apart render controller) (kept : Kept controller)
    (running : controller.drains[index]? = some drain) (live : drain.IsLive)
    {written : ProgressTurn} (own : written.ident = drain.owner)
    (owner : next.owner = drain.owner) (holdsOwn : ∀ snap ∈ next.state?, snap.ident = drain.owner)
    (fits : next.Fits (edits drain.owner controller.log))
    (scheduled : next.IsLive → written.scheduled = true) (agrees : next.Agrees written)
    (counted : next.IsPending ∨ Counted written (edits drain.owner controller.log)) :
    Apart render ((controller.write drain written).setDrain index next) := by
  -- whatever is stored for the drain's turn now is what has been written
  have found : ∀ key turn, (controller.write drain written).states.get? key = some turn →
      turn.ident = drain.owner → turn = written := by
    intro key turn stored same
    rw [Controller.write, Controller.store, Dict.get?_set] at stored
    split at stored
    · exact (Option.some.inj stored).symm
    · rename_i elsewhere
      exact absurd (here kept running stored same) elsewhere
  have change : Turnover render controller ((controller.write drain written).setDrain index next) index drain next := {
    drains := rfl
    created := rfl
    owner := owner
    holdsOwn := holdsOwn
    states := fun key turn stored => by
      by_cases same : turn.ident = drain.owner
      · exact .inl same
      · refine .inr ?_
        rw [Controller.setDrain, Controller.write, Controller.store, Dict.get?_set] at stored
        split at stored
        · cases stored
          exact absurd own same
        · exact stored
    flagged := fun key turn stored same goesOn => by
      rw [found key turn stored same]
      exact scheduled goesOn
    own := fun entry logged => by
      obtain same | before := List.mem_cons.mp logged
      · rw [same]
        exact .inr own
      · exact .inl before
    others := fun _ _ => rfl
    numbered := apart.numbered _
    fits := fits
    agrees := fun key turn stored same => by
      rw [found key turn stored same]
      exact agrees
    counted := fun key turn stored same => by
      rw [found key turn stored same]
      exact counted }
  exact apart.turnover kept running live change

/-- The drain drops its turn, written or not, and moves on. -/
theorem dropMove (apart : Apart render controller) (kept : Kept controller)
    (running : controller.drains[index]? = some drain) (live : drain.IsLive)
    (written : Controller) (drains : written.drains = controller.drains)
    (created : written.created = controller.created)
    (elsewhere : ∀ other, drain.key ≠ other → written.states.get? other = controller.states.get? other)
    (logged : ∀ entry ∈ written.log, entry ∈ controller.log ∨ entry.Own)
    (same : ∀ ident, edits ident written.log = edits ident controller.log)
    (mine : ∀ turn, written.states.get? drain.key = some turn → turn.ident = drain.owner)
    {cause : Cause} (ours : cause.owner? = some drain.owner) (discards : Bool)
    (owner : next.owner = drain.owner) (holdsOwn : ∀ snap ∈ next.state?, snap.ident = drain.owner)
    (fits : next.Fits (edits drain.owner controller.log)) :
    Apart render ((written.dropStateLocked drain.key cause discards).2.setDrain index next) := by
  have before : ∀ key turn,
      (written.dropStateLocked drain.key cause discards).2.states.get? key = some turn →
      drain.key ≠ key ∧ controller.states.get? key = some turn := by
    intro key turn stored
    rw [Controller.get?_dropStateLocked] at stored
    split at stored
    · cases stored
    · rename_i different
      exact ⟨different, (elsewhere key different).symm.trans stored⟩
  have gone : ∀ key turn,
      (written.dropStateLocked drain.key cause discards).2.states.get? key = some turn →
      turn.ident ≠ drain.owner := by
    intro key turn stored own
    obtain ⟨different, was⟩ := before key turn stored
    exact different (here kept running was own)
  have edited : ∀ ident, edits ident ((written.dropStateLocked drain.key cause discards).2.setDrain
      index next).log = edits ident controller.log :=
    fun ident => (edits_dropStateLocked ident _ _ _).trans (same ident)
  have change : Turnover render controller ((written.dropStateLocked drain.key
      cause discards).2.setDrain index next) index drain next := {
    drains := by
      rw [← drains, ← written.drains_dropStateLocked drain.key cause discards]
      rfl
    created := by
      rw [← created]
      exact Controller.created_dropStateLocked _ _ _
    owner := owner
    holdsOwn := holdsOwn
    states := fun key turn stored => .inr (before key turn stored).2
    flagged := fun key turn stored own => absurd own (gone key turn stored)
    own := fun entry member => by
      obtain ⟨turn, released, stored, isRemoved⟩ | old := Controller.mem_log_dropStateLocked member
      · rw [isRemoved]
        refine .inr fun other present => ?_
        cases ours.symm.trans present
        exact mine turn stored
      · exact logged entry old
    others := fun ident _ => edited ident
    numbered := by
      rw [edited]
      exact apart.numbered _
    fits := by
      rw [edited]
      exact fits
    agrees := fun key turn stored own => absurd own (gone key turn stored)
    counted := fun key turn stored own => absurd own (gone key turn stored) }
  exact apart.turnover kept running live change

theorem record (apart : Apart render controller) {entry : Record} (own : entry.Own)
    (same : ∀ ident, edits ident (entry :: controller.log) = edits ident controller.log) :
    Apart render (controller.record entry) where
  alone := apart.alone
  flagged := apart.flagged
  holdsOwn := apart.holdsOwn
  own := fun other member => by
    obtain here | before := List.mem_cons.mp member
    · rw [here]
      exact own
    · exact apart.own other before
  unborn := fun later => (same _).trans (apart.unborn later)
  numbered := fun ident => by
    rw [Controller.record, same]
    exact apart.numbered ident
  fits := fun member => by
    rw [Controller.record, same]
    exact apart.fits member
  agrees := apart.agrees
  counted := fun stored => by
    rw [Controller.record, same]
    exact apart.counted stored

/-- The drain sends an edit. -/
theorem editMove (apart : Apart render controller) (kept : Kept controller)
    (running : controller.drains[index]? = some drain) (live : drain.IsLive)
    (owner : next.owner = drain.owner) (holdsOwn : ∀ snap ∈ next.state?, snap.ident = drain.owner)
    (ours : snap.ident = drain.owner) (numbered : Numbered render (snap :: edits drain.owner controller.log))
    (fits : next.Fits (snap :: edits drain.owner controller.log)) (pending : next.IsPending)
    (agrees : ∀ turn, controller.states.get? drain.key = some turn → turn.ident = drain.owner →
      next.Agrees turn) :
    Apart render ((controller.record (.edited drain.owner snap)).setDrain index next) := by
  have longer : edits drain.owner (.edited drain.owner snap :: controller.log) =
      snap :: edits drain.owner controller.log := if_pos ours
  have change : Turnover render controller ((controller.record (.edited drain.owner snap)).setDrain index
      next) index drain next := {
    drains := rfl
    created := rfl
    owner := owner
    holdsOwn := holdsOwn
    states := fun _ _ stored => .inr stored
    flagged := fun _ _ stored own _ => apart.flagged (List.mem_of_getElem? running) live stored own
    own := fun entry logged => by
      obtain here | before := List.mem_cons.mp logged
      · rw [here]
        exact .inr ours
      · exact .inl before
    others := fun ident different => if_neg fun same => different (same.symm.trans ours)
    numbered := longer ▸ numbered
    fits := longer ▸ fits
    agrees := fun key turn stored own => by
      have there := here kept running stored own
      exact agrees turn (there ▸ stored) own
    counted := fun _ _ _ _ => .inl pending }
  exact apart.turnover kept running live change

end Apart

end OctoChannel.Progress

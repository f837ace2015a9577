import OctoChannel.Progress.Reachable

namespace OctoChannel.Progress

open Foundation Identity

structure Segmented (controller : Controller) : Prop where
  single : ∀ key other turn found, controller.states.get? key = some turn →
    controller.states.get? other = some found → other.sessionId = key.sessionId →
    other.turnId = key.turnId → turn.final = false → found.final = false → other = key
  newest : ∀ key other turn found, controller.states.get? key = some turn → turn.final = false →
    controller.states.get? other = some found → other.sessionId = key.sessionId →
    other.turnId = key.turnId → other.segmentNo ≤ key.segmentNo
  resolved : ∀ turn cause, .removed turn cause ∈ controller.log → turn.initialDelivery = true
  recorded : ∀ ident < controller.created,
    (∃ key turn, controller.states.get? key = some turn ∧ turn.ident = ident) ∨
      ∃ turn cause, .removed turn cause ∈ controller.log ∧ turn.ident = ident

/-- One event puts no turn in the place of another, and what a final turn shows stays. -/
structure Continues (before after : Controller) : Prop where
  same : ∀ key turn next, before.states.get? key = some turn → after.states.get? key = some next →
    next.ident = turn.ident
  final : ∀ key turn next, before.states.get? key = some turn → after.states.get? key = some next →
    turn.final = true → next.toTurnContent = turn.toTurnContent

namespace ProgressTurn

/-- A card that has been sent has its initial delivery resolved. -/
def Resolved (turn : ProgressTurn) : Prop := turn.messageId ≠ none → turn.initialDelivery = true

/-- The turn after a drain or the scheduling wrote it. -/
structure Shown (turn next : ProgressTurn) : Prop where
  origin : next.toTurnOrigin = turn.toTurnOrigin
  content : next.toTurnContent = turn.toTurnContent
  resolved : turn.Resolved → next.Resolved

variable {turn next last : ProgressTurn}

theorem Shown.refl (turn : ProgressTurn) : turn.Shown turn := ⟨rfl, rfl, id⟩

theorem Shown.trans (first : turn.Shown next) (second : next.Shown last) : turn.Shown last where
  origin := second.origin.trans first.origin
  content := second.content.trans first.content
  resolved := fun resolved => second.resolved (first.resolved resolved)

/-- A turn whose drop may fail has been sent. -/
private theorem resolved_of_holdsCardSession (holds : turn.holdsCardSession = true)
    (resolved : turn.Resolved) : turn.initialDelivery = true := by
  apply resolved
  intro unsent
  rw [holdsCardSession, unsent] at holds
  simp at holds

end ProgressTurn

/-- All turns of the table are shown as they were, and what left it is resolved. -/
structure Carried (before after : Controller) : Prop where
  states : ∀ key next, after.states.get? key = some next →
    ∃ turn, before.states.get? key = some turn ∧ turn.Shown next
  log : ∀ turn cause, .removed turn cause ∈ after.log → .removed turn cause ∈ before.log ∨
    ((∀ key found, before.states.get? key = some found → found.Resolved) →
      turn.initialDelivery = true)

namespace Carried

variable {first second third controller : Controller} {key : ProgressKey} {turn next : ProgressTurn}
  {index : Nat} {drain : Drain} {snap : Snapshot}

theorem refl (controller : Controller) : Carried controller controller where
  states := fun _ next stored => ⟨next, stored, .refl next⟩
  log := fun _ _ logged => .inl logged

theorem trans (left : Carried first second) (right : Carried second third) :
    Carried first third where
  states := fun key next stored => by
    obtain ⟨middle, between, shown⟩ := right.states key next stored
    obtain ⟨turn, was, before⟩ := left.states key middle between
    exact ⟨turn, was, before.trans shown⟩
  log := fun turn cause logged => by
    obtain earlier | resolves := right.log turn cause logged
    · exact left.log turn cause earlier
    · refine .inr fun resolved => resolves fun key middle between => ?_
      obtain ⟨found, was, shown⟩ := left.states key middle between
      exact shown.resolved (resolved key found was)

theorem setDrain (carried : Carried first second) (index : Nat) (drain : Drain) :
    Carried first (second.setDrain index drain) := ⟨carried.states, carried.log⟩

theorem record (carried : Carried first second) {entry : Record}
    (plain : ∀ turn cause, entry ≠ .removed turn cause) : Carried first (second.record entry) where
  states := carried.states
  log := fun turn cause logged => by
    obtain same | before := List.mem_cons.mp logged
    · exact absurd same.symm (plain turn cause)
    · exact carried.log turn cause before

theorem store (stored : controller.states.get? key = some turn) (shown : turn.Shown next) :
    Carried controller (controller.store key next) where
  states := fun other found held => by
    rw [Controller.store, Dict.get?_set] at held
    split at held
    · rename_i same
      cases held
      exact ⟨turn, same ▸ stored, shown⟩
    · exact ⟨found, held, .refl found⟩
  log := fun _ _ logged => .inl logged

theorem write (stored : controller.states.get? drain.key = some turn) (shown : turn.Shown next) :
    Carried controller (controller.write drain next) := by
  have recorded : Carried controller (controller.record (.changed drain.owner next.ident)) :=
    (refl controller).record fun _ _ same => by cases same
  exact recorded.trans (store stored shown)

/-- A drop resolves what it takes out, unless that was resolved when it was sent. -/
theorem drop (controller : Controller) (key : ProgressKey) (cause : Cause) (discards : Bool) :
    Carried controller (controller.dropStateLocked key cause discards).2 where
  states := fun other found held => by
    rw [Controller.get?_dropStateLocked] at held
    split at held
    · cases held
    · exact ⟨found, held, .refl found⟩
  log := fun turn why logged => by
    rw [Controller.dropStateLocked] at logged
    cases stored : controller.states.get? key with
    | none =>
      rw [stored] at logged
      exact .inl logged
    | some found =>
      rw [stored] at logged
      obtain same | before := List.mem_cons.mp logged
      · refine .inr fun resolved => ?_
        cases same
        by_cases raises : (found.holdsCardSession && !discards) = true
        · rw [if_pos raises]
          have holds := (Bool.and_eq_true_iff.mp raises).1
          exact ProgressTurn.resolved_of_holdsCardSession holds (resolved key found stored)
        · rw [if_neg raises]
      · exact .inl before

theorem leave (stored : controller.states.get? drain.key = some turn) (shown : turn.Shown next)
    (cause : Cause) (inTry discards : Bool) :
    Carried controller (controller.leave index drain snap cause next inTry discards) := by
  have left : Carried controller (controller.write drain { next with scheduled := false }) :=
    write stored ⟨shown.origin, shown.content, shown.resolved⟩
  have leaving := controller.leaving index drain snap cause next inTry discards
  generalize controller.leave index drain snap cause next inTry discards = after at leaving ⊢
  cases leaving with
  | dropped => exact (left.trans (drop _ drain.key cause discards)).setDrain index _
  | left => exact left.setDrain index _

theorem look (controller : Controller) (index : Nat) (drain : Drain) (world : World) :
    Carried controller (controller.look index drain world) := by
  rw [Controller.look]
  split
  · exact (refl controller).setDrain index _
  · dsimp only
    split
    · exact (drop controller drain.key _ world.discards).setDrain index _
    · rename_i turn _ _
      have read : Carried controller (controller.record (.read drain.owner turn.ident)) :=
        (refl controller).record fun _ _ same => by cases same
      split
      · exact (read.setDrain index _).record fun _ _ same => by cases same
      · exact read.setDrain index _

theorem advance (controller : Controller) (index : Nat) (drain : Drain) (world : World) :
    Carried controller (controller.advance index drain world) := by
  have here : Carried controller controller := refl controller
  have found : ∀ {snap turn}, controller.current? drain.key snap = some turn →
      controller.states.get? drain.key = some turn :=
    fun current => (Controller.current?_eq_some.mp current).1
  rw [Controller.advance]
  cases drain.point with
  | queued =>
    dsimp only
    rw [Controller.spawn]
    split
    · exact here.setDrain index _
    · exact here.setDrain index _
  | looking last => exact look controller index drain world
  | finished => exact here
  | working snap stage =>
    cases stage with
    | fetching => exact here.setDrain index _
    | choosing selected =>
      dsimp only
      rw [Controller.choose]
      cases current : controller.current? drain.key snap with
      | none => exact here.setDrain index _
      | some turn => exact (write (found current) ⟨by rfl, by rfl, by exact id⟩).setDrain index _
    | idling =>
      dsimp only
      rw [Controller.idle]
      cases current : controller.current? drain.key snap with
      | none => exact here.setDrain index _
      | some turn => exact leave (found current) ⟨by rfl, by rfl, by exact id⟩ _ true world.discards
    | announcing =>
      dsimp only
      rw [Controller.announce]
      cases current : controller.current? drain.key snap with
      | none => exact here.setDrain index _
      | some turn =>
        have announced : Carried controller (controller.write drain { turn with sendStarted := true }) :=
          write (found current) ⟨rfl, rfl, id⟩
        exact (announced.record fun _ _ same => by cases same).setDrain index _
    | sending => exact here.setDrain index _
    | posted messageId =>
      dsimp only
      have posting := controller.posting index drain snap messageId world
      generalize controller.post index drain snap messageId world = after at posting ⊢
      cases posting with
      | mismatch => exact here.setDrain index _
      | unsynced current => exact (write (found current) ⟨by rfl, by rfl, fun _ _ => rfl⟩).setDrain index _
      | settled current =>
        exact leave (found current) ⟨by rfl, by rfl, fun _ _ => rfl⟩ _ true world.discards
      | again current => exact (write (found current) ⟨by rfl, by rfl, fun _ _ => rfl⟩).setDrain index _
    | awaiting attempt => exact here.setDrain index _
    | pausing attempt => exact (here.record (fun _ _ same => by cases same)).setDrain index _
    | resting => exact look controller index drain world
    | delivered =>
      dsimp only
      have committing := controller.committing index drain snap world
      generalize controller.commit index drain snap world = after at committing ⊢
      cases committing with
      | mismatch => exact here.setDrain index _
      | unsynced current => exact (write (found current) ⟨by rfl, by rfl, by exact id⟩).setDrain index _
      | settled current => exact leave (found current) ⟨by rfl, by rfl, by exact id⟩ _ false world.discards
      | again current => exact (write (found current) ⟨by rfl, by rfl, by exact id⟩).setDrain index _
    | dropping reason =>
      dsimp only
      obtain ⟨next, _, same⟩ := controller.dropByKey_ends index drain snap reason world.discards
      rw [same]
      exact (drop controller drain.key _ world.discards).setDrain index _

end Carried

variable {controller after : Controller} {key : ProgressKey} {turn : ProgressTurn}

theorem Carried.schedule (stored : controller.states.get? key = some turn) (discards : Bool) :
    Carried controller (controller.scheduleLocked key discards) := by
  have scheduling := Controller.scheduling stored discards
  generalize controller.scheduleLocked key discards = after at scheduling ⊢
  cases scheduling with
  | nothing => exact .refl controller
  | dropped cause => exact .drop controller key cause discards
  | queued =>
    have scheduled : Carried controller (controller.store key { turn with scheduled := true }) :=
      .store stored ⟨by rfl, by rfl, by exact id⟩
    exact ⟨scheduled.states, scheduled.log⟩

theorem Carried.dropAll (discards : ProgressKey → Bool) (keys : List ProgressKey)
    (controller : Controller) : Carried controller (Controller.dropAll discards keys controller) := by
  induction keys generalizing controller with
  | nil => exact .refl controller
  | cons first rest ih =>
    rw [Controller.dropAll]
    have dropped := Carried.drop controller first .cancelled (discards first)
    generalize controller.dropStateLocked first .cancelled (discards first) = drop at dropped ⊢
    obtain ⟨raises, after⟩ := drop
    cases raises with
    | true => exact dropped
    | false => exact dropped.trans (ih after)

theorem Carried.continues (carried : Carried controller after) : Continues controller after where
  same := fun key turn next stored left => by
    obtain ⟨found, was, shown⟩ := carried.states key next left
    cases stored.symm.trans was
    rw [shown.origin]
  final := fun key turn next stored left _ => by
    obtain ⟨found, was, shown⟩ := carried.states key next left
    cases stored.symm.trans was
    exact shown.content

/-- What a hook makes of a turn may be dropped or scheduled at once. -/
theorem continues_amend (stored : controller.states.get? key = some turn)
    (unfinished : turn.final = false) {amended : Amended} (admits : turn.Admits amended)
    (discards : Bool) : Continues controller (controller.amend key discards amended) := by
  -- the amended turn keeps its identity, and the others are carried along
  have written : ∀ next : ProgressTurn, next.toTurnOrigin = turn.toTurnOrigin → ∀ later,
      Carried (controller.store key next) later → Continues controller later := by
    intro next origin later carried
    have back : ∀ other found last, controller.states.get? other = some found →
        later.states.get? other = some last →
        last.ident = found.ident ∧ (found.final = true → last.toTurnContent = found.toTurnContent) := by
      intro other found last had left
      obtain ⟨middle, between, shown⟩ := carried.states other last left
      rw [Controller.store, Dict.get?_set] at between
      split at between
      · rename_i here
        cases between
        subst here
        cases stored.symm.trans had
        refine ⟨by rw [shown.origin, origin], fun final => ?_⟩
        rw [unfinished] at final
        cases final
      · cases had.symm.trans between
        exact ⟨by rw [shown.origin], fun _ => shown.content⟩
    exact ⟨fun other found last had left => (back other found last had left).1,
      fun other found last had left => (back other found last had left).2⟩
  cases amended with
  | kept => exact (Carried.refl controller).continues
  | quiet next => exact written next admits.origin _ (.refl _)
  | published next =>
    exact written next.publish admits.1.origin _ (.schedule (Dict.get?_set_self _ _ _) discards)

/-- A turn put under a free key comes in the place of none. -/
theorem continues_insert (free : controller.states.get? key = none) (adapter : Nat)
    (route : TrustedOctoRoute) (mode : Option DeliveryMode) (now : Int) (there : Continues
      (controller.insert adapter route key mode now) after) : Continues controller after where
  same := fun other turn next stored left => by
    refine there.same other turn next ?_ left
    rw [get?_insert, if_neg, stored]
    intro here
    rw [here, stored] at free
    cases free
  final := fun other turn next stored left => by
    refine there.final other turn next ?_ left
    rw [get?_insert, if_neg, stored]
    intro here
    rw [here, stored] at free
    cases free

/-- Every event continues the turns of a table that is in order. -/
theorem Kept.continues (kept : Kept controller) (event : ProgressEvent) :
    Continues controller (progressStep controller event) := by
  have happening := Controller.happening kept event
  generalize progressStep controller event = after at happening ⊢
  cases happening with
  | nothing => exact (Carried.refl controller).continues
  | amended stored unfinished admits => exact continues_amend stored unfinished admits _
  | begun beyond => exact continues_insert beyond.free _ _ _ _ (Carried.refl _).continues
  | unsent stored unfinished beyond =>
    exact continues_insert beyond.free _ _ _ _ (Carried.drop _ _ _ _).continues
  | @stopped _ key turn now discards stored unfinished beyond =>
    have still := (get?_insert_next turn.adapter turn.route turn.deliveryMode now).trans stored
    exact continues_insert beyond.free _ _ _ _
      (continues_amend still unfinished (turn.stopped_admits now) discards)
  | cancelled => exact (Carried.dropAll _ _ controller).continues
  | adapter => exact ⟨(Carried.refl controller).continues.same, (Carried.refl controller).continues.final⟩
  | advanced running => exact (Carried.advance controller _ _ _).continues

/-- Turns that have been sent are resolved, and so are those that have left. -/
structure Answered (controller : Controller) : Prop where
  stored : ∀ key turn, controller.states.get? key = some turn → turn.Resolved
  removed : ∀ turn cause, .removed turn cause ∈ controller.log → turn.initialDelivery = true

namespace Answered

theorem start (adapters : Nat → AdapterStatus) : Answered (.start adapters) where
  stored := fun _ _ stored => by cases stored
  removed := fun _ _ logged => by cases logged

theorem carry (answered : Answered controller) (carried : Carried controller after) :
    Answered after where
  stored := fun key next left => by
    obtain ⟨turn, was, shown⟩ := carried.states key next left
    exact shown.resolved (answered.stored key turn was)
  removed := fun turn cause logged => by
    obtain before | resolves := carried.log turn cause logged
    · exact answered.removed turn cause before
    · exact resolves answered.stored

theorem store (answered : Answered controller) (stored : controller.states.get? key = some turn)
    {next : ProgressTurn} (delivery : next.toTurnDelivery = turn.toTurnDelivery) :
    Answered (controller.store key next) where
  stored := fun other found held => by
    rw [Controller.store, Dict.get?_set] at held
    split at held
    · cases held
      have resolved := answered.stored key turn stored
      rw [ProgressTurn.Resolved, delivery]
      exact resolved
    · exact answered.stored other found held
  removed := answered.removed

theorem insert (answered : Answered controller) (key : ProgressKey) (adapter : Nat)
    (route : TrustedOctoRoute) (mode : Option DeliveryMode) (now : Int) :
    Answered (controller.insert adapter route key mode now) where
  stored := fun other found held => by
    rw [get?_insert] at held
    split at held
    · cases held
      exact fun sent => absurd rfl sent
    · exact answered.stored other found held
  removed := answered.removed

theorem amend (answered : Answered controller) (stored : controller.states.get? key = some turn)
    {amended : Amended} (admits : turn.Admits amended) (discards : Bool) :
    Answered (controller.amend key discards amended) := by
  cases amended with
  | kept => exact answered
  | quiet next => exact answered.store stored admits.delivery
  | published next =>
    have published : Answered (controller.store key next.publish) :=
      answered.store stored admits.1.delivery
    exact published.carry (.schedule (Dict.get?_set_self _ _ _) discards)

theorem step (answered : Answered controller) (kept : Kept controller) (event : ProgressEvent) :
    Answered (progressStep controller event) := by
  have happening := Controller.happening kept event
  generalize progressStep controller event = after at happening ⊢
  cases happening with
  | nothing => exact answered
  | amended stored _ admits => exact answered.amend stored admits _
  | begun => exact answered.insert _ _ _ _ _
  | unsent => exact (answered.insert _ _ _ _ _).carry (.drop _ _ _ _)
  | @stopped _ key turn now discards stored =>
    have still := (get?_insert_next turn.adapter turn.route turn.deliveryMode now).trans stored
    exact (answered.insert _ _ _ _ _).amend still (turn.stopped_admits now) discards
  | cancelled => exact answered.carry (.dropAll _ _ controller)
  | adapter => exact ⟨answered.stored, answered.removed⟩
  | advanced running => exact answered.carry (.advance controller _ _ _)

end Answered

private theorem Kept.segmented (kept : Kept controller) (answered : Answered controller) :
    Segmented controller where
  single := fun key other turn found stored held session turnId unfinished open' => by
    have below := kept.newest key turn other found stored unfinished held session turnId
    have above := kept.newest other found key turn held open' stored session.symm turnId.symm
    obtain ⟨keySession, keyTurn, keySegment⟩ := key
    obtain ⟨otherSession, otherTurn, otherSegment⟩ := other
    simp only [ProgressKey.mk.injEq]
    exact ⟨session, turnId, Nat.le_antisymm below above⟩
  newest := fun key other turn found stored unfinished held =>
    kept.newest key turn other found stored unfinished held
  resolved := answered.removed
  recorded := fun _ below => kept.recorded below

/-- In every state of every run each turn has at most one live segment, its newest, all
turns that left are resolved, and every event continues what is there. -/
theorem progressRun_segmented (adapters : Nat → AdapterStatus) (events : List ProgressEvent) :
    Segmented ((progressMachine adapters).run events) ∧
      ∀ event, Continues ((progressMachine adapters).run events)
        (progressStep ((progressMachine adapters).run events) event) := by
  have both := @Machine.invariant_of_steps _ _ (progressMachine adapters)
    (fun controller => Kept controller ∧ Answered controller)
    ⟨Kept.start adapters, Answered.start adapters⟩
    (fun _ event held => ⟨held.1.step event, held.2.step held.1 event⟩) events
  exact ⟨both.1.segmented both.2, both.1.continues⟩

end OctoChannel.Progress

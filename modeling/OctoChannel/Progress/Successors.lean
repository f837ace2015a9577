import OctoChannel.Progress.Apart

namespace OctoChannel.Progress

open Foundation Identity

namespace Apart

variable {Card : Type} {render : Snapshot → Card} {controller after : Controller} {index : Nat}
  {drain next : Drain} {snap : Snapshot} {key : ProgressKey} {turn : ProgressTurn}

theorem own_of_state (state : next.state? = some snap) (ours : snap.ident = drain.owner) :
    ∀ other ∈ next.state?, other.ident = drain.owner := by
  intro other taken
  cases state.symm.trans taken
  exact ours

/-- What a section with a snapshot finds is the turn the drain was scheduled for. -/
theorem current_own (apart : Apart render controller) (running : controller.drains[index]? = some drain)
    (holds : snap ∈ drain.state?) (current : controller.current? drain.key snap = some turn) :
    controller.states.get? drain.key = some turn ∧ turn.ident = drain.owner ∧
      snap.ident = drain.owner := by
  obtain ⟨stored, same⟩ := Controller.current?_eq_some.mp current
  have ours := apart.holdsOwn (List.mem_of_getElem? running) holds
  exact ⟨stored, same.trans ours, ours⟩

theorem fits_of_idle {done : List Snapshot} (idle : ∀ snap stage, next.point ≠ .working snap stage) :
    next.Fits done := fun snap stage point => absurd point (idle snap stage)

theorem agrees_of_idle (idle : ∀ snap stage, next.point ≠ .working snap stage) :
    next.Agrees turn := fun snap stage point => absurd point (idle snap stage)

theorem fits_of_unedited {done : List Snapshot} {stage : Stage} (point : next.point = .working snap stage)
    (unedited : stage.isEditing = false) (unsent : stage.isSending = true → snap.messageId = none) :
    next.Fits done := by
  intro other kind there
  rw [point] at there
  cases there
  refine ⟨fun editing => ?_, unsent⟩
  rw [unedited] at editing
  cases editing

theorem fits_of_dropping {done : List Snapshot} {reason : DropReason}
    (point : next.point = .working snap (.dropping reason)) : next.Fits done :=
  fits_of_unedited point rfl fun sending => by cases sending

private theorem agrees_of_dropping {reason : DropReason}
    (point : next.point = .working snap (.dropping reason)) : next.Agrees turn := by
  intro other stage there kind
  rw [point] at there
  cases there
  cases kind

theorem pending_of_dropping {reason : DropReason}
    (point : next.point = .working snap (.dropping reason)) : next.IsPending :=
  ⟨snap, _, point, .inr rfl⟩

theorem settled_of_stage {stage : Stage} (point : drain.point = .working snap stage)
    (editing : stage.isEditing = false) (dropping : stage.isDropping = false) :
    ¬ drain.IsPending := by
  intro ⟨other, kind, there, pending⟩
  rw [point] at there
  cases there
  rw [editing, dropping] at pending
  obtain pending | pending := pending
  · cases pending
  · cases pending

theorem live_of_working {stage : Stage} (point : drain.point = .working snap stage) :
    drain.IsLive := by
  intro finished
  rw [point] at finished
  cases finished

/-- The drain ends, with its turn gone or counted. -/
theorem finish (apart : Apart render controller) (kept : Kept controller)
    (running : controller.drains[index]? = some drain) (live : drain.IsLive)
    (mine : ∀ turn, controller.states.get? drain.key = some turn → turn.ident = drain.owner →
      Counted turn (edits drain.owner controller.log)) :
    Apart render (controller.setDrain index drain.finish) := by
  exact apart.move kept running live rfl (fun _ taken => by cases taken)
    (fits_of_idle drain.idle_finish)
    fun turn stored own => ⟨agrees_of_idle drain.idle_finish, .inr (mine turn stored own)⟩

theorem finish_of_mismatch (apart : Apart render controller) (kept : Kept controller)
    (running : controller.drains[index]? = some drain) (live : drain.IsLive)
    (holds : snap ∈ drain.state?) (mismatch : controller.current? drain.key snap = none) :
    Apart render (controller.setDrain index drain.finish) := by
  refine apart.finish kept running live fun turn stored own => ?_
  have same := apart.holdsOwn (List.mem_of_getElem? running) holds
  rw [Controller.current?_eq_some.mpr ⟨stored, own.trans same.symm⟩] at mismatch
  cases mismatch

/-- What comes after a drop keeps the owner, the snapshot, and no plan for the card. -/
theorem of_ends (apart : Apart render controller) (running : controller.drains[index]? = some drain)
    (holds : snap ∈ drain.state?) (ends : drain.Ends snap next) (done : List Snapshot) :
    next.owner = drain.owner ∧ (∀ other ∈ next.state?, other.ident = drain.owner) ∧
      next.Fits done := by
  cases ends with
  | finished => exact ⟨rfl, fun _ taken => (by cases taken), fits_of_idle drain.idle_finish⟩
  | handler =>
    have ours := apart.holdsOwn (List.mem_of_getElem? running) holds
    exact ⟨rfl, own_of_state rfl ours, fits_of_dropping rfl⟩

theorem dropByKey (apart : Apart render controller) (kept : Kept controller)
    (running : controller.drains[index]? = some drain) (live : drain.IsLive)
    (holds : snap ∈ drain.state?)
    (mine : ∀ turn, controller.states.get? drain.key = some turn → turn.ident = drain.owner)
    (reason : DropReason) (discards : Bool) :
    Apart render (controller.dropByKey index drain snap reason discards) := by
  obtain ⟨next, ends, same⟩ := controller.dropByKey_ends index drain snap reason discards
  obtain ⟨owner, holdsOwn, fits⟩ := apart.of_ends running holds ends (edits drain.owner controller.log)
  rw [same]
  exact apart.dropMove kept running live controller rfl rfl (fun _ _ => rfl)
    (fun _ member => .inl member) (fun _ => rfl) mine (by rfl) discards owner holdsOwn fits

/-- The drain leaves its turn, whose edits are all counted. -/
theorem leave (apart : Apart render controller) (kept : Kept controller)
    (running : controller.drains[index]? = some drain) (live : drain.IsLive)
    (holds : snap ∈ drain.state?) {written : ProgressTurn} (own : written.ident = drain.owner)
    (counted : Counted written (edits drain.owner controller.log)) (cause : Cause)
    (ours : cause.owner? = some drain.owner) (inTry discards : Bool) :
    Apart render (controller.leave index drain snap cause written inTry discards) := by
  have leaving := controller.leaving index drain snap cause written inTry discards
  generalize controller.leave index drain snap cause written inTry discards = after at leaving ⊢
  cases leaving with
  | dropped final ends =>
    obtain ⟨owner, holdsOwn, fits⟩ :=
      apart.of_ends running holds ends (edits drain.owner controller.log)
    refine apart.dropMove kept running live
      (controller.write drain { written with scheduled := false }) rfl rfl ?_ ?_ (fun _ => rfl) ?_
      ours discards owner holdsOwn fits
    · intro other elsewhere
      exact Dict.get?_set_of_ne _ _ elsewhere
    · intro entry member
      obtain same | before := List.mem_cons.mp member
      · rw [same]
        exact .inr own
      · exact .inl before
    · intro turn stored
      cases (Dict.get?_set_self _ _ _).symm.trans stored
      exact own
  | left =>
    exact apart.writeMove kept running live own rfl (fun _ taken => by cases taken)
      (fits_of_idle drain.idle_finish) (fun goesOn => absurd rfl goesOn)
      (agrees_of_idle drain.idle_finish) (.inr counted)

theorem choose (apart : Apart render controller) (kept : Kept controller)
    (running : controller.drains[index]? = some drain) {selected : Option TemplateRef}
    (point : drain.point = .working snap (.choosing selected)) (holds : snap ∈ drain.state?) :
    Apart render (controller.choose index drain snap selected) := by
  have live := live_of_working point
  rw [Controller.choose]
  cases current : controller.current? drain.key snap with
  | none => exact apart.finish_of_mismatch kept running live holds current
  | some turn =>
    obtain ⟨stored, own, ours⟩ := apart.current_own running holds current
    have flagged := apart.flagged (List.mem_of_getElem? running) live stored own
    have counted := apart.counted_of_settled running live (settled_of_stage point rfl rfl) stored own
    exact apart.writeMove kept running live own rfl (own_of_state (by rfl) ours)
      (fits_of_idle (drain.idle_looking _)) (fun _ => flagged)
      (agrees_of_idle (drain.idle_looking _)) (.inr counted)

theorem idle (apart : Apart render controller) (kept : Kept controller)
    (running : controller.drains[index]? = some drain)
    (point : drain.point = .working snap .idling) (holds : snap ∈ drain.state?) (discards : Bool) :
    Apart render (controller.idle index drain snap discards) := by
  have live := live_of_working point
  rw [Controller.idle]
  cases current : controller.current? drain.key snap with
  | none => exact apart.finish_of_mismatch kept running live holds current
  | some turn =>
    obtain ⟨stored, own, _⟩ := apart.current_own running holds current
    have counted := apart.counted_of_settled running live (settled_of_stage point rfl rfl) stored own
    exact apart.leave kept running live holds (by exact own) (by exact counted)
      (.idle drain.owner snap) rfl true discards

theorem announce (apart : Apart render controller) (kept : Kept controller)
    (running : controller.drains[index]? = some drain)
    (point : drain.point = .working snap .announcing) (holds : snap ∈ drain.state?) :
    Apart render (controller.announce index drain snap) := by
  have live := live_of_working point
  rw [Controller.announce]
  cases current : controller.current? drain.key snap with
  | none => exact apart.finish_of_mismatch kept running live holds current
  | some turn =>
    obtain ⟨stored, own, ours⟩ := apart.current_own running holds current
    have member := List.mem_of_getElem? running
    have flagged := apart.flagged member live stored own
    have agrees := apart.agrees member stored own snap _ point rfl
    have counted := apart.counted_of_settled running live (settled_of_stage point rfl rfl) stored own
    have announced : Apart render ((controller.write drain { turn with sendStarted := true }).setDrain index
        (drain.moved (.working snap .sending))) := by
      refine apart.writeMove kept running live own rfl (own_of_state (by rfl) ours)
        (fits_of_unedited rfl rfl fun _ => (apart.fits member snap _ point).2 rfl)
        (fun _ => flagged) ?_ (.inr counted)
      intro other stage there _
      cases there
      exact ⟨agrees.cardSeq, agrees.messageId, agrees.deliveryMode⟩
    exact @record _ _ _ announced (.sent drain.owner snap) ours fun _ => rfl

/-- Before its first send a card has no edits. -/
theorem unedited (counted : Counted turn (edits drain.owner controller.log))
    (unsent : turn.messageId = none) :
    edits drain.owner controller.log = [] ∧ turn.cardSeq = 0 := by
  cases done : edits drain.owner controller.log with
  | nil =>
    rw [done] at counted
    exact ⟨rfl, counted⟩
  | cons last rest =>
    rw [done] at counted
    obtain ⟨_, same, known⟩ := counted
    exact absurd (same.symm.trans unsent) known

theorem post (apart : Apart render controller) (kept : Kept controller)
    (running : controller.drains[index]? = some drain) {messageId : PyStr}
    (point : drain.point = .working snap (.posted messageId)) (holds : snap ∈ drain.state?)
    (world : World) : Apart render (controller.post index drain snap messageId world) := by
  have live := live_of_working point
  have member := List.mem_of_getElem? running
  -- the card has not been edited before it is sent
  have fresh : ∀ {turn}, controller.states.get? drain.key = some turn → turn.ident = drain.owner →
      turn.scheduled = true ∧ edits drain.owner controller.log = [] ∧ turn.cardSeq = 0 := by
    intro turn stored own
    have unsent := (apart.agrees member stored own snap _ point rfl).messageId.trans
      ((apart.fits member snap _ point).2 rfl)
    have counted := apart.counted_of_settled running live (settled_of_stage point rfl rfl) stored own
    exact ⟨apart.flagged member live stored own, unedited counted unsent⟩
  have posting := controller.posting index drain snap messageId world
  generalize controller.post index drain snap messageId world = after at posting ⊢
  cases posting with
  | mismatch gone => exact apart.finish_of_mismatch kept running live holds gone
  | unsynced current =>
    obtain ⟨stored, own, ours⟩ := apart.current_own running holds current
    exact apart.writeMove kept running live own rfl (own_of_state (by rfl) ours)
      (fits_of_dropping rfl) (fun _ => (fresh stored own).1) (agrees_of_dropping rfl)
      (.inl (pending_of_dropping rfl))
  | settled current =>
    obtain ⟨stored, own, _⟩ := apart.current_own running holds current
    obtain ⟨_, none, unnumbered⟩ := fresh stored own
    refine apart.leave kept running live holds (by exact own) ?_ (.delivered drain.owner snap) rfl
      true world.discards
    rw [none]
    exact unnumbered
  | again current =>
    obtain ⟨stored, own, ours⟩ := apart.current_own running holds current
    obtain ⟨flagged, none, unnumbered⟩ := fresh stored own
    refine apart.writeMove kept running live own rfl (own_of_state (by rfl) ours)
      (fits_of_idle (drain.idle_looking _)) (fun _ => flagged)
      (agrees_of_idle (drain.idle_looking _)) (.inr ?_)
    rw [none]
    exact unnumbered

theorem commit (apart : Apart render controller) (kept : Kept controller)
    (running : controller.drains[index]? = some drain)
    (point : drain.point = .working snap .delivered) (holds : snap ∈ drain.state?) (world : World) :
    Apart render (controller.commit index drain snap world) := by
  have live := live_of_working point
  have member := List.mem_of_getElem? running
  obtain ⟨head, editable⟩ := (apart.fits member snap _ point).1 rfl
  obtain ⟨rest, done⟩ := List.head?_eq_some_iff.mp head
  -- the edit is counted as soon as its number is written
  have ready : ∀ {turn}, controller.states.get? drain.key = some turn → turn.ident = drain.owner →
      turn.scheduled = true ∧ ∀ written : ProgressTurn, written.cardSeq = snap.nextSeq →
        written.messageId = turn.messageId → Counted written (edits drain.owner controller.log) := by
    intro turn stored own
    have same := (apart.agrees member stored own snap _ point rfl).messageId
    refine ⟨apart.flagged member live stored own, fun written seq message => ?_⟩
    rw [done]
    exact ⟨seq.symm, message.trans same, editable.message⟩
  have committing := controller.committing index drain snap world
  generalize controller.commit index drain snap world = after at committing ⊢
  cases committing with
  | mismatch gone => exact apart.finish_of_mismatch kept running live holds gone
  | unsynced current =>
    obtain ⟨stored, own, _⟩ := apart.current_own running holds current
    obtain ⟨flagged, counted⟩ := ready stored own
    exact apart.writeMove kept running live own rfl (fun _ taken => by cases taken)
      (fits_of_idle drain.idle_finish) (fun _ => flagged) (agrees_of_idle drain.idle_finish)
      (.inr (counted _ rfl rfl))
  | settled current =>
    obtain ⟨stored, own, _⟩ := apart.current_own running holds current
    obtain ⟨_, counted⟩ := ready stored own
    exact apart.leave kept running live holds (by exact own) (counted _ (by rfl) (by rfl))
      (.delivered drain.owner snap) rfl false world.discards
  | again current =>
    obtain ⟨stored, own, ours⟩ := apart.current_own running holds current
    obtain ⟨flagged, counted⟩ := ready stored own
    exact apart.writeMove kept running live own rfl (own_of_state (by rfl) ours)
      (fits_of_idle (drain.idle_looking _)) (fun _ => flagged)
      (agrees_of_idle (drain.idle_looking _)) (.inr (counted _ rfl rfl))

end Apart

namespace Snapshot

variable {snap : Snapshot} {renders : Bool}

/-- Every way on from a snapshot, with what it tells. -/
private theorem stage_cases (snap : Snapshot) (renders : Bool) :
    snap.stage renders = .fetching ∨ snap.stage renders = .idling ∨
      (snap.stage renders = .announcing ∧ snap.messageId = none) ∨
      snap.stage renders = .dropping .failed ∨ (snap.stage renders = .awaiting 0 ∧ snap.Editable) := by
  have editable : snap.messageId ≠ none → snap.stage true = .awaiting 0 → snap.Editable :=
    fun message stage => ⟨message, stage⟩
  unfold stage at editable ⊢
  cases renders with
  | false => split_ifs <;> simp_all
  | true => split_ifs <;> simp_all

/-- An edit that could be made can be made again, unless rendering raises. -/
theorem Editable.again (editable : snap.Editable) (renders : Bool) :
    snap.stage renders = .awaiting 0 ∨ snap.stage renders = .dropping .failed := by
  cases renders with
  | true => exact .inl editable.stage
  | false =>
    have stage := editable.stage
    have message := editable.message
    unfold Snapshot.stage at stage ⊢
    split_ifs at stage ⊢ <;> simp_all

end Snapshot

namespace Apart

variable {Card : Type} {render : Snapshot → Card} {controller after : Controller} {index : Nat}
  {drain next : Drain} {snap : Snapshot} {key : ProgressKey} {turn : ProgressTurn}

/-- A new edit continues the numbers of the turn, or repeats the last one. -/
private theorem numbered_cons (apart : Apart render controller) {now : Int}
    (ready : Counted turn (edits drain.owner controller.log) ∨
      ∃ last, (edits drain.owner controller.log).head? = some last ∧
        SameEdit render (turn.snapshot now) last) :
    Numbered render (turn.snapshot now :: edits drain.owner controller.log) := by
  have numbered := apart.numbered drain.owner
  cases done : edits drain.owner controller.log with
  | nil =>
    rw [done] at ready
    obtain counted | ⟨last, head, _⟩ := ready
    · exact congrArg (· + 1) counted
    · cases head
  | cons last rest =>
    rw [done] at ready numbered
    obtain ⟨seq, message, _⟩ | ⟨other, head, same⟩ := ready
    · exact ⟨.inr ⟨message, congrArg (· + 1) seq.symm⟩, numbered⟩
    · cases head
      exact ⟨.inl same, numbered⟩

theorem look (apart : Apart render controller) (kept : Kept controller)
    (running : controller.drains[index]? = some drain) (live : drain.IsLive) (world : World)
    (mine : ∀ turn, controller.states.get? drain.key = some turn → turn.ident = drain.owner)
    (ready : ∀ turn, controller.states.get? drain.key = some turn →
      controller.Drops turn world ∨ Counted turn (edits drain.owner controller.log) ∨
        ((∃ last, (edits drain.owner controller.log).head? = some last ∧
          SameEdit render (turn.snapshot world.now) last) ∧ (turn.snapshot world.now).Editable)) :
    Apart render (controller.look index drain world) := by
  rw [Controller.look]
  cases stored : controller.states.get? drain.key with
  | none =>
    refine apart.finish kept running live fun turn there _ => ?_
    rw [stored] at there
    cases there
  | some turn =>
    have own := mine turn stored
    dsimp only
    split
    · exact apart.dropMove kept running live controller rfl rfl (fun _ _ => rfl)
        (fun _ member => .inl member) (fun _ => rfl) mine (by rfl) world.discards rfl
        (fun _ taken => by cases taken) (fits_of_idle drain.idle_finish)
    · rename_i online
      have continues : (turn.snapshot world.now).stage world.renders ≠ .dropping .failed →
          Counted turn (edits drain.owner controller.log) ∨
            ((∃ last, (edits drain.owner controller.log).head? = some last ∧
              SameEdit render (turn.snapshot world.now) last) ∧
                (turn.snapshot world.now).Editable) := by
        intro undropped
        refine (ready turn stored).resolve_left fun drops => ?_
        obtain disconnecting | closed | dropping := drops
        · exact online (.inl disconnecting)
        · exact online (.inr (by rw [closed]; rfl))
        · exact undropped dropping
      have read : Apart render (controller.record (.read drain.owner turn.ident)) :=
        apart.record own fun _ => rfl
      have order := kept.record (.read drain.owner turn.ident)
      have holdsOwn : ∀ stage, ∀ snap ∈
          (drain.moved (.working (turn.snapshot world.now) stage)).state?,
          snap.ident = drain.owner := fun stage => own_of_state rfl own
      have agrees : ∀ stage found, controller.states.get? drain.key = some found →
          (drain.moved (.working (turn.snapshot world.now) stage)).Agrees found := by
        intro stage found there other kind point _
        cases point
        cases stored.symm.trans there
        exact ⟨rfl, rfl, rfl⟩
      -- unless the drain goes on to edit or to drop, the last edit has been counted
      have counted : (turn.snapshot world.now).stage world.renders ≠ .awaiting 0 →
          (turn.snapshot world.now).stage world.renders ≠ .dropping .failed → ∀ found,
          controller.states.get? drain.key = some found →
          Counted found (edits drain.owner controller.log) := by
        intro unedited undropped found there
        cases stored.symm.trans there
        obtain counted | ⟨_, editable⟩ := continues undropped
        · exact counted
        · exact ((editable.again world.renders).elim unedited undropped).elim
      obtain stage | stage | ⟨stage, unsent⟩ | stage | ⟨stage, editable⟩ :=
        (turn.snapshot world.now).stage_cases world.renders
      · rw [stage] at counted ⊢
        exact read.move order running live rfl (holdsOwn _)
          (fits_of_unedited rfl rfl (by simp [Stage.isSending])) fun found there _ =>
            ⟨agrees _ found there, .inr (counted (by simp) (by simp) found there)⟩
      · rw [stage] at counted ⊢
        exact read.move order running live rfl (holdsOwn _)
          (fits_of_unedited rfl rfl (by simp [Stage.isSending])) fun found there _ =>
            ⟨agrees _ found there, .inr (counted (by simp) (by simp) found there)⟩
      · rw [stage] at counted ⊢
        exact read.move order running live rfl (holdsOwn _) (fits_of_unedited rfl rfl fun _ => unsent)
          fun found there _ =>
            ⟨agrees _ found there, .inr (counted (by simp) (by simp) found there)⟩
      · rw [stage]
        exact read.move order running live rfl (holdsOwn _) (fits_of_dropping rfl) fun found there _ =>
          ⟨agrees _ found there, .inl (pending_of_dropping rfl)⟩
      · rw [stage]
        have numbered := apart.numbered_cons ((continues (by simp [stage])).imp_right And.left)
        refine read.editMove order running live rfl (holdsOwn _) own numbered ?_
          ⟨turn.snapshot world.now, _, rfl, .inl rfl⟩ fun found there _ => agrees _ found there
        intro other kind point
        cases point
        refine ⟨fun _ => ⟨rfl, editable⟩, fun sending => ?_⟩
        cases sending

/-- Where an answered edit leads, the edit is still pending, or the turn is dropped. -/
private theorem editAnswered_stage (drain : Drain) (snap : Snapshot) (attempt : Nat)
    (answer : EditAnswer) :
    ∃ exhaustions stage, Controller.editAnswered drain snap attempt answer =
        { drain with editExhaustions := exhaustions, point := .working snap stage } ∧
      (stage.isEditing = true ∨ stage.isDropping = true) ∧ stage.isSending = false := by
  cases answer with
  | edited => exact ⟨_, _, rfl, .inl rfl, rfl⟩
  | raised error =>
    rw [Controller.editAnswered]
    split
    · exact ⟨_, _, rfl, .inr rfl, rfl⟩
    · split
      · exact ⟨_, _, rfl, .inl rfl, rfl⟩
      · refine ⟨_, _, rfl, ?_⟩
        split
        · exact ⟨.inr rfl, rfl⟩
        · exact ⟨.inl rfl, rfl⟩

/-- The drain goes on with its snapshot, without the lock. -/
theorem onward (apart : Apart render controller) (kept : Kept controller)
    (running : controller.drains[index]? = some drain) {stage further : Stage}
    (point : drain.point = .working snap stage) (holds : snap ∈ drain.state?)
    (owner : next.owner = drain.owner) (nextPoint : next.point = .working snap further)
    (kind : stage.isDropping = false)
    (editing : further.isEditing = true → stage.isEditing = true)
    (sending : further.isSending = true → stage.isSending = true)
    (pending : stage.isEditing = true → further.isEditing = true ∨ further.isDropping = true) :
    Apart render (controller.setDrain index next) := by
  have member := List.mem_of_getElem? running
  have live := live_of_working point
  have state : next.state? = some snap := by rw [Drain.state?, nextPoint]
  have holdsOwn := own_of_state state (apart.holdsOwn member holds)
  refine apart.move kept running live owner holdsOwn ?_ fun turn stored own => ⟨?_, ?_⟩
  · intro other there same
    cases nextPoint.symm.trans same
    obtain ⟨edited, sent⟩ := apart.fits member snap stage point
    exact ⟨fun goesOn => edited (editing goesOn), fun goesOn => sent (sending goesOn)⟩
  · intro other there same _
    cases nextPoint.symm.trans same
    exact apart.agrees member stored own snap stage point kind
  · by_cases edited : stage.isEditing = true
    · exact .inl ⟨snap, further, nextPoint, pending edited⟩
    · have settled := settled_of_stage point (eq_false_of_ne_true edited) kind
      exact .inr (apart.counted_of_settled running live settled stored own)

theorem spawn (apart : Apart render controller) (kept : Kept controller)
    (running : controller.drains[index]? = some drain) (point : drain.point = .queued)
    (starts : Bool) : Apart render (controller.spawn index drain starts) := by
  have live : drain.IsLive := by
    intro finished
    rw [point] at finished
    cases finished
  have settled : ¬ drain.IsPending := by
    intro ⟨other, stage, there, _⟩
    rw [point] at there
    cases there
  have counted : ∀ turn, controller.states.get? drain.key = some turn → turn.ident = drain.owner →
      Counted turn (edits drain.owner controller.log) :=
    fun turn stored own => apart.counted_of_settled running live settled stored own
  rw [Controller.spawn]
  split
  · exact apart.finish kept running live counted
  · refine apart.move kept running live rfl (fun _ taken => by cases taken)
      (fits_of_idle (drain.idle_looking _)) fun turn stored own => ?_
    exact ⟨agrees_of_idle (drain.idle_looking _), .inr (counted turn stored own)⟩

private theorem wake (apart : Apart render controller) (kept : Kept controller)
    (running : controller.drains[index]? = some drain) {last : Option Snapshot}
    (point : drain.point = .looking last) (world : World)
    (mine : ∀ turn ∈ controller.states.get? drain.key, turn.ident = drain.owner) :
    Apart render (controller.look index drain world) := by
  have live : drain.IsLive := by
    intro finished
    rw [point] at finished
    cases finished
  have settled : ¬ drain.IsPending := by
    intro pending
    obtain ⟨other, stage, there, _⟩ := pending
    rw [point] at there
    cases there
  exact apart.look kept running live world mine fun turn stored =>
    .inr (.inl (apart.counted_of_settled running live settled stored (mine turn stored)))

/-- A failed edit goes out once more as it was. -/
private theorem again (apart : Apart render controller) (kept : Kept controller)
    (running : controller.drains[index]? = some drain) {attempt : Nat}
    (point : drain.point = .working snap (.pausing attempt)) (own : snap.ident = drain.owner) :
    Apart render ((controller.record (.edited drain.owner snap)).setDrain index
      (drain.moved (.working snap (.awaiting (attempt + 1))))) := by
  have member := List.mem_of_getElem? running
  obtain ⟨head, editable⟩ := (apart.fits member snap _ point).1 rfl
  obtain ⟨rest, done⟩ := List.head?_eq_some_iff.mp head
  have numbered := apart.numbered drain.owner
  refine apart.editMove kept running (live_of_working point) rfl (own_of_state (by rfl) own) own
    ?_ ?_ ⟨snap, _, rfl, .inl rfl⟩ ?_
  · rw [done] at numbered ⊢
    exact ⟨.inl ⟨rfl, rfl, rfl⟩, numbered⟩
  · intro other there same
    cases same
    refine ⟨fun _ => ⟨rfl, editable⟩, fun sending => ?_⟩
    cases sending
  · intro turn stored own other there same _
    cases same
    exact apart.agrees member stored own snap _ point rfl

/-- After a round of failed edits the turn is read once more. -/
private theorem rest (apart : Apart render controller) (kept : Kept controller)
    (running : controller.drains[index]? = some drain)
    (point : drain.point = .working snap .resting) (world : World)
    (finds : ∀ turn ∈ controller.states.get? drain.key, turn.ident = drain.owner ∧
      ((turn.snapshot world.now).stage true = .awaiting 0 ∧
          render (turn.snapshot world.now) = render snap ∨
        controller.Drops turn world)) : Apart render (controller.look index drain world) := by
  have member := List.mem_of_getElem? running
  obtain ⟨head, editable⟩ := (apart.fits member snap _ point).1 rfl
  refine apart.look kept running (live_of_working point) world
    (fun turn stored => (finds turn stored).1) ?_
  intro turn stored
  obtain ⟨own, again⟩ := finds turn stored
  obtain ⟨stage, card⟩ | drops := again
  · have agrees := apart.agrees member stored own snap _ point rfl
    have message := agrees.messageId
    exact .inr (.inr ⟨⟨snap, head, message, agrees.cardSeq, card⟩,
      fun missing => editable.message (message.symm.trans missing), stage⟩)
  · exact .inl drops

/-- Every step of a drain that finds its own turn keeps the drains apart. -/
theorem advance (apart : Apart render controller) (kept : Kept controller)
    (running : controller.drains[index]? = some drain) (world : World)
    (finds : drain.FindsOwn render controller world) : Apart render (controller.advance index drain world) := by
  have member := List.mem_of_getElem? running
  rw [Controller.advance]
  rw [Drain.FindsOwn] at finds
  cases point : drain.point with
  | queued => exact apart.spawn kept running point world.starts
  | finished => exact apart
  | looking last =>
    rw [point] at finds
    exact apart.wake kept running point world finds
  | working snap stage =>
    have holds : snap ∈ drain.state? := by
      rw [Drain.state?, point]
      exact rfl
    have live := live_of_working point
    have ours := apart.holdsOwn member holds
    rw [point] at finds
    cases stage with
    | fetching =>
      refine apart.onward kept running point holds (by rfl) (by rfl) rfl ?_ ?_ ?_
      · cases world.profile with
        | none => exact id
        | some answer => cases enabled : answer.enabled <;> simp [enabled, Stage.isEditing]
      · cases world.profile with
        | none => exact id
        | some answer => cases enabled : answer.enabled <;> simp [enabled, Stage.isSending]
      · intro editing
        cases editing
    | choosing selected => exact apart.choose kept running point holds
    | idling => exact apart.idle kept running point holds world.discards
    | announcing => exact apart.announce kept running point holds
    | sending =>
      refine apart.onward kept running point holds (by rfl) (by rfl) rfl ?_ (fun _ => rfl) ?_
      · cases world.sent <;> exact id
      · intro editing
        cases editing
    | posted messageId => exact apart.post kept running point holds world
    | awaiting attempt =>
      obtain ⟨exhaustions, further, same, pending, unsent⟩ :=
        editAnswered_stage drain snap attempt world.edited
      dsimp only
      rw [same]
      refine apart.onward kept running point holds (by rfl) (by rfl) rfl (fun _ => rfl) ?_ fun _ => pending
      intro sending
      rw [unsent] at sending
      cases sending
    | pausing attempt => exact apart.again kept running point ours
    | resting => exact apart.rest kept running point world finds
    | delivered => exact apart.commit kept running point holds world
    | dropping reason => exact apart.dropByKey kept running live holds finds reason world.discards

/-- What a hook leaves alone: how the turn is scheduled and how far it is delivered. -/
structure Carries (turn found : ProgressTurn) : Prop where
  ident : found.ident = turn.ident
  flag : turn.scheduled = true → found.scheduled = true
  cardSeq : found.cardSeq = turn.cardSeq
  messageId : found.messageId = turn.messageId
  deliveryMode : found.deliveryMode = turn.deliveryMode

theorem Carries.of_delivery {found : ProgressTurn} (origin : found.toTurnOrigin = turn.toTurnOrigin)
    (delivery : found.toTurnDelivery = turn.toTurnDelivery) : Carries turn found where
  ident := congrArg TurnOrigin.ident origin
  flag := (congrArg TurnDelivery.scheduled delivery).trans
  cardSeq := congrArg TurnDelivery.cardSeq delivery
  messageId := congrArg TurnDelivery.messageId delivery
  deliveryMode := congrArg TurnDelivery.deliveryMode delivery

theorem Carries.counted {found : ProgressTurn} (carries : Carries turn found) {done : List Snapshot}
    (counted : Counted turn done) : Counted found done := by
  cases done with
  | nil => exact carries.cardSeq.trans counted
  | cons last rest =>
    obtain ⟨seq, same, known⟩ := counted
    exact ⟨seq.trans carries.cardSeq.symm, carries.messageId.trans same, known⟩

theorem Carries.agrees {found : ProgressTurn} (carries : Carries turn found)
    (agrees : snap.Agrees turn) : snap.Agrees found where
  cardSeq := by
    rw [carries.cardSeq]
    exact agrees.cardSeq
  messageId := carries.messageId.trans agrees.messageId
  deliveryMode := carries.deliveryMode.trans agrees.deliveryMode

/-- The table changes, and no drain: turns go, come, or are written by hooks. -/
theorem reshape (apart : Apart render controller) (filed : Filed controller)
    (drains : after.drains = controller.drains) (created : controller.created ≤ after.created)
    (own : ∀ entry ∈ after.log, entry ∈ controller.log ∨ entry.Own)
    (same : ∀ ident, edits ident after.log = edits ident controller.log)
    (states : ∀ key found, after.states.get? key = some found →
      (∃ turn, controller.states.get? key = some turn ∧ Carries turn found) ∨
        (found.ident = controller.created ∧ found.cardSeq = 0)) : Apart render after := by
  have older : ∀ {worker : Drain}, worker ∈ controller.drains → worker.owner ≠ controller.created :=
    fun member => Nat.ne_of_lt (filed.served member (.inl rfl))
  constructor
  case alone =>
    intro first second worker other there here
    rw [drains] at there here
    exact apart.alone there here
  case flagged =>
    intro worker key found member live stored owned
    rw [drains] at member
    obtain ⟨turn, was, carries⟩ | ⟨fresh, _⟩ := states key found stored
    · exact carries.flag (apart.flagged member live was (carries.ident.symm.trans owned))
    · exact absurd (owned.symm.trans fresh) (older member)
  case holdsOwn =>
    intro worker snap member
    rw [drains] at member
    exact apart.holdsOwn member
  case own => exact fun entry logged => (own entry logged).elim (apart.own entry) id
  case unborn => exact fun later => (same _).trans (apart.unborn (Nat.le_trans created later))
  case numbered =>
    intro ident
    rw [same]
    exact apart.numbered ident
  case fits =>
    intro worker member
    rw [drains] at member
    rw [same]
    exact apart.fits member
  case agrees =>
    intro worker key found member stored owned snap stage point kind
    rw [drains] at member
    obtain ⟨turn, was, carries⟩ | ⟨fresh, _⟩ := states key found stored
    · have before := carries.ident.symm.trans owned
      exact carries.agrees (apart.agrees member was before snap stage point kind)
    · exact absurd (owned.symm.trans fresh) (older member)
  case counted =>
    intro key found stored
    rw [same, drains]
    obtain ⟨turn, was, carries⟩ | ⟨fresh, unnumbered⟩ := states key found stored
    · rw [carries.ident]
      exact (apart.counted was).imp_right carries.counted
    · rw [fresh, apart.unborn (Nat.le_refl _)]
      exact .inr unnumbered

theorem store (apart : Apart render controller) (filed : Filed controller)
    (stored : controller.states.get? key = some turn) {written : ProgressTurn}
    (carries : Carries turn written) : Apart render (controller.store key written) := by
  refine apart.reshape filed rfl (Nat.le_refl _) (fun _ logged => .inl logged) (fun _ => rfl) ?_
  intro other found held
  rw [Controller.store, Dict.get?_set] at held
  split at held
  · rename_i same
    cases held
    exact .inl ⟨turn, same ▸ stored, carries⟩
  · exact .inl ⟨found, held, .of_delivery rfl rfl⟩

/-- A drop that no drain makes. -/
theorem drop (apart : Apart render controller) (filed : Filed controller) (key : ProgressKey) (cause : Cause)
    (unowned : cause.owner? = none) (discards : Bool) :
    Apart render (controller.dropStateLocked key cause discards).2 := by
  refine apart.reshape filed (controller.drains_dropStateLocked key cause discards) ?_ ?_ ?_ ?_
  · rw [Controller.created_dropStateLocked]
  · intro entry logged
    obtain ⟨turn, released, _, isRemoved⟩ | before := Controller.mem_log_dropStateLocked logged
    · rw [isRemoved]
      refine .inr fun owner present => ?_
      cases unowned.symm.trans present
    · exact .inl before
  · exact fun ident => edits_dropStateLocked ident key cause discards
  · intro other found held
    rw [Controller.get?_dropStateLocked] at held
    split at held
    · cases held
    · exact .inl ⟨found, held, .of_delivery rfl rfl⟩

theorem insert (apart : Apart render controller) (filed : Filed controller) (key : ProgressKey)
    (adapter : Nat) (route : TrustedOctoRoute) (mode : Option DeliveryMode) (now : Int) :
    Apart render (controller.insert adapter route key mode now) := by
  refine apart.reshape filed rfl (Nat.le_succ _) (fun _ logged => .inl logged) (fun _ => rfl) ?_
  intro other found held
  rw [get?_insert] at held
  split at held
  · cases held
    exact .inr ⟨rfl, rfl⟩
  · exact .inl ⟨found, held, .of_delivery rfl rfl⟩

/-- A scheduled turn that no live drain was scheduled for gets one. -/
theorem queue (apart : Apart render controller) (filed : Filed controller)
    (stored : controller.states.get? key = some turn) (scheduled : turn.scheduled = true)
    (unowned : ∀ worker ∈ controller.drains, worker.IsLive → worker.owner ≠ turn.ident)
    (adapter : Nat) :
    Apart render { controller with drains := controller.drains ++ [⟨key, turn.ident, adapter, 0, .queued⟩] } := by
  have idle : ∀ snap stage,
      (⟨key, turn.ident, adapter, 0, .queued⟩ : Drain).point ≠ .working snap stage := by
    intro snap stage same
    cases same
  have placed : ∀ {worker}, worker ∈ controller.drains ++ [⟨key, turn.ident, adapter, 0, .queued⟩] →
      worker ∈ controller.drains ∨ worker = ⟨key, turn.ident, adapter, 0, .queued⟩ :=
    fun member => (List.mem_append.mp member).imp_right List.mem_singleton.mp
  have drainAt : ∀ {place : Nat} {worker : Drain},
      (controller.drains ++ [⟨key, turn.ident, adapter, 0, .queued⟩])[place]? = some worker →
      controller.drains[place]? = some worker ∨
        (place = controller.drains.length ∧ worker = ⟨key, turn.ident, adapter, 0, .queued⟩) := by
    intro place worker there
    rw [List.getElem?_append] at there
    split at there
    · exact .inl there
    · have first : place - controller.drains.length = 0 := by
        have inside := (List.getElem?_eq_some_iff.mp there).1
        simpa using inside
      rw [first] at there
      exact .inr ⟨by omega, (Option.some.inj there).symm⟩
  constructor
  case alone =>
    intro first second worker other there here live otherLive same
    obtain was | ⟨place, isNew⟩ := drainAt there
    · obtain wasOther | ⟨_, otherNew⟩ := drainAt here
      · exact apart.alone was wasOther live otherLive same
      · rw [otherNew] at same
        exact absurd same (unowned worker (List.mem_of_getElem? was) live)
    · obtain wasOther | ⟨otherPlace, _⟩ := drainAt here
      · rw [isNew] at same
        exact absurd same.symm (unowned other (List.mem_of_getElem? wasOther) otherLive)
      · rw [place, otherPlace]
  case flagged =>
    intro worker other found member live held owned
    obtain was | isNew := placed member
    · exact apart.flagged was live held owned
    · rw [isNew] at owned
      have same := filed.single held stored owned
      subst same
      cases stored.symm.trans held
      exact scheduled
  case holdsOwn =>
    intro worker snap member taken
    obtain was | isNew := placed member
    · exact apart.holdsOwn was taken
    · rw [isNew] at taken
      cases taken
  case own => exact apart.own
  case unborn => exact apart.unborn
  case numbered => exact apart.numbered
  case fits =>
    intro worker member
    obtain was | isNew := placed member
    · exact apart.fits was
    · rw [isNew]
      exact fits_of_idle idle
  case agrees =>
    intro worker other found member held owned
    obtain was | isNew := placed member
    · exact apart.agrees was held owned
    · rw [isNew]
      exact agrees_of_idle idle
  case counted =>
    intro other found held
    refine (apart.counted held).imp_left fun ⟨worker, member, same, pending⟩ => ?_
    exact ⟨worker, List.mem_append_left _ member, same, pending⟩

theorem amend (apart : Apart render controller) (filed : Filed controller)
    (stored : controller.states.get? key = some turn) {amended : Amended}
    (admits : turn.Admits amended) (discards : Bool) :
    Apart render (controller.amend key discards amended) := by
  cases amended with
  | kept => exact apart
  | quiet written =>
    exact apart.store filed stored (.of_delivery admits.origin admits.delivery)
  | published written =>
    obtain ⟨amends, _⟩ := admits
    have now : (controller.store key written.publish).states.get? key = some written.publish :=
      Dict.get?_set_self _ _ _
    have published : Apart render (controller.store key written.publish) :=
      apart.store filed stored (.of_delivery amends.origin amends.delivery)
    have order : Filed (controller.store key written.publish) :=
      filed.store stored amends.toFollows.publish written.sound_publish
    have scheduling := Controller.scheduling now discards
    rw [Controller.amend]
    generalize controller.store key written.publish = before at now published order scheduling ⊢
    generalize before.scheduleLocked key discards = after at scheduling ⊢
    cases scheduling with
    | nothing => exact published
    | dropped cause why =>
      refine published.drop order key cause ?_ discards
      obtain ⟨same, _⟩ | same := why
      · rw [same]
        rfl
      · rw [same]
        rfl
    | queued unscheduled =>
      -- a live drain of the turn would have kept it scheduled
      have unowned : ∀ worker ∈ before.drains, worker.IsLive →
          worker.owner ≠ written.publish.ident := by
        intro worker member live same
        rw [published.flagged member live now same.symm] at unscheduled
        cases unscheduled
      have flagged : Apart render (before.store key { written.publish with scheduled := true }) :=
        published.store order now ⟨rfl, fun _ => rfl, rfl, rfl, rfl⟩
      have orderFlagged : Filed (before.store key { written.publish with scheduled := true }) :=
        order.store now (.of_content (by rfl) (by rfl)) ((order.sound now).of_content (by rfl))
      exact flagged.queue orderFlagged (Dict.get?_set_self _ _ _) rfl unowned _

theorem dropAll (apart : Apart render controller) (filed : Filed controller)
    (discards : ProgressKey → Bool) (keys : List ProgressKey) :
    Apart render (Controller.dropAll discards keys controller) := by
  induction keys generalizing controller with
  | nil => exact apart
  | cons first rest ih =>
    rw [Controller.dropAll]
    have order := filed.drop first .cancelled (discards first)
    have dropped := apart.drop filed first .cancelled rfl (discards first)
    generalize controller.dropStateLocked first .cancelled (discards first) = drop at dropped order ⊢
    obtain ⟨raises, after⟩ := drop
    cases raises with
    | true => exact dropped
    | false => exact ih dropped order

/-- Every step of a faithful run keeps the drains apart. -/
theorem step (apart : Apart render controller) (kept : Kept controller) (event : ProgressEvent)
    (faithful : Faithful render controller event) : Apart render (progressStep controller event) := by
  have happening := Controller.happening kept event
  have filed := kept.toFiled
  generalize progressStep controller event = after at happening ⊢
  cases happening with
  | nothing => exact apart
  | amended stored _ admits => exact apart.amend filed stored admits _
  | begun => exact apart.insert filed _ _ _ _ _
  | @unsent _ key turn now discards stored unfinished beyond =>
    have inserted := apart.insert filed { key with segmentNo := key.segmentNo + 1 } turn.adapter
      turn.route turn.deliveryMode now
    have order := filed.insert beyond.free turn.adapter turn.route turn.deliveryMode now
    exact inserted.drop order key .rolledOver rfl discards
  | @stopped _ key turn now discards stored unfinished beyond =>
    have inserted := apart.insert filed { key with segmentNo := key.segmentNo + 1 } turn.adapter
      turn.route turn.deliveryMode now
    have order := filed.insert beyond.free turn.adapter turn.route turn.deliveryMode now
    have still := (get?_insert_next turn.adapter turn.route turn.deliveryMode now).trans stored
    exact inserted.amend order still (turn.stopped_admits now) discards
  | cancelled => exact apart.dropAll filed _ _
  | adapter =>
    have left : ∀ key found, controller.states.get? key = some found →
        ∃ turn, controller.states.get? key = some turn ∧ Carries turn found :=
      fun _ found held => ⟨found, held, .of_delivery rfl rfl⟩
    exact @reshape _ _ controller _ apart filed rfl (Nat.le_refl _) (fun _ logged => .inl logged)
      (fun _ => rfl) fun key found held => .inl (left key found held)
  | advanced running => exact apart.advance kept running _ (faithful _ rfl _ running)

end Apart

/-- Over every run whose drains find their own turns, the drains stay apart. -/
theorem progressRun_drainsApart {Card : Type} (render : Snapshot → Card)
    (adapters : Nat → AdapterStatus) (events : List ProgressEvent)
    (faithful : (progressMachine adapters).Along (Faithful render) events) :
    DrainsApart render ((progressMachine adapters).run events) := by
  have both := @Machine.invariant_of_along _ _ (progressMachine adapters) (Faithful render) events
    (fun controller => Kept controller ∧ Apart render controller)
    ⟨Kept.start adapters, Apart.start adapters⟩
    (fun _ event held finds => ⟨held.1.step event, held.2.step held.1 event finds⟩) faithful
  exact both.2.drainsApart

/-- The server is out of order. -/
def World.down : World :=
  { World.fine with profile := none, sent := none, edited := .raised (.api (some 503)) }

/-- A running registry card shows its phase and its tools, and no elapsed time. -/
def runningCard (snap : Snapshot) : PyStr × List ProgressTool := (snap.phase, snap.tools)

/-- An edit fails for a whole round and goes through in the next one, a second later; the
session is cancelled, and another turn takes the key. -/
def rejoinedRun : List ProgressEvent :=
  [.begin false 0 sampleRoute (py "s") (py "t") 0 true,
    .toolStarted (py "s") (py "t") (sampleTool "1") true] ++
  List.replicate 8 (.drain 0 .registry) ++
  [.toolStarted (py "s") (py "t") (sampleTool "2") true] ++
  List.replicate 7 (.drain 1 .down) ++
  List.replicate 3 (.drain 1 { World.registry with now := 1000 }) ++
  [.cancelSession (py "s") fun _ => true, .begin false 0 sampleRoute (py "s") (py "t") 0 true,
    .toolStarted (py "s") (py "t") (sampleTool "3") true] ++
  List.replicate 8 (.drain 2 .registry)

theorem progressRun_drainsApart_rejoined :
    DrainsApart runningCard ((progressMachine onlineAdapters).run rejoinedRun) := by
  have follows : (progressMachine onlineAdapters).Follows (Faithful runningCard)
      (progressMachine onlineAdapters).start rejoinedRun := by
    decide +kernel
  exact progressRun_drainsApart runningCard onlineAdapters rejoinedRun
    (Machine.along_of_follows follows)

/-- While a drain asks for the manifest, its session is cancelled and another turn takes
the key. The answer is an error, and the drain drops that other turn. -/
def takenOverRun : List ProgressEvent :=
  [.begin false 0 sampleRoute (py "s") (py "t") 0 true,
    .toolStarted (py "s") (py "t") (sampleTool "1") true,
    .drain 0 .fine, .drain 0 .fine,
    .cancelSession (py "s") fun _ => true, .begin false 0 sampleRoute (py "s") (py "t") 0 true,
    .toolStarted (py "s") (py "t") (sampleTool "2") true,
    .drain 0 .down, .drain 0 .fine]

/-- An ordinary card shows how much time has passed. -/
def timedCard (snap : Snapshot) : PyStr × List ProgressTool × Nat :=
  (snap.phase, snap.tools, snap.elapsedMs)

/-- A round of edits fails, and the next one goes out later under the same number. -/
def exhaustedRun : List ProgressEvent :=
  [.begin false 0 sampleRoute (py "s") (py "t") 0 true,
    .toolStarted (py "s") (py "t") (sampleTool "1") true] ++
  List.replicate 8 (.drain 0 .fine) ++
  [.toolStarted (py "s") (py "t") (sampleTool "2") true] ++
  List.replicate 7 (.drain 1 .down) ++ [.drain 1 { World.fine with now := 700 }]

theorem runs_not_drainsApart :
    ¬ DrainsApart timedCard ((progressMachine onlineAdapters).run takenOverRun) ∧
      ¬ DrainsApart timedCard ((progressMachine onlineAdapters).run exhaustedRun) := by
  refine ⟨fun apart => ?_, fun apart => ?_⟩
  · have foreign : (((progressMachine onlineAdapters).run takenOverRun).log.any
        fun entry => !decide entry.Own) = true := by
      decide +kernel
    obtain ⟨entry, logged, other⟩ := List.any_eq_true.mp foreign
    simp only [Bool.not_eq_true', decide_eq_false_iff_not] at other
    exact other (apart.own entry logged)
  · have shown : (edits 0 ((progressMachine onlineAdapters).run exhaustedRun).log).map
        (fun snap => (snap.nextSeq, snap.elapsedMs)) = [(1, 700), (1, 0), (1, 0), (1, 0)] := by
      decide +kernel
    have numbered := apart.numbered 0
    generalize edits 0 ((progressMachine onlineAdapters).run exhaustedRun).log = done
      at shown numbered
    obtain ⟨next, _, rfl, late, shown⟩ := List.map_eq_cons_iff.mp shown
    obtain ⟨last, rest, rfl, early, _⟩ := List.map_eq_cons_iff.mp shown
    obtain ⟨first, later⟩ := Prod.mk.inj late
    obtain ⟨again, earlier⟩ := Prod.mk.inj early
    obtain ⟨same | ⟨_, higher⟩, _⟩ := numbered
    · have elapsed : next.elapsedMs = last.elapsedMs := congrArg (fun card => card.2.2) same.card
      omega
    · omega

end OctoChannel.Progress

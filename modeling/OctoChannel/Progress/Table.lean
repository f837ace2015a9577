import OctoChannel.Progress.Drain

namespace OctoChannel.Progress

open Foundation Identity

namespace ProgressTurn

/-- What any writer may make of a stored turn. -/
structure Follows (turn next : ProgressTurn) : Prop where
  origin : next.toTurnOrigin = turn.toTurnOrigin
  revision : turn.revision ≤ next.revision
  final : turn.final = true → next.final = true

/-- A turn that is final has not changed since a hook published it. -/
structure Sound (turn : ProgressTurn) : Prop where
  published : turn.publishedRevision ≤ turn.revision
  final : turn.final = true → turn.publishedRevision = turn.revision

/-- What a hook makes of a turn: one revision on, and never what the drains write. -/
structure Amends (turn next : ProgressTurn) : Prop extends Follows turn next where
  delivery : next.toTurnDelivery = turn.toTurnDelivery

/-- What a hook makes of a turn when it asks for no drain. -/
structure AmendsQuietly (turn next : ProgressTurn) : Prop extends Amends turn next where
  published : next.publishedRevision = turn.publishedRevision
  real : next.hasRealTool = true → turn.hasRealTool = true
  unfinished : next.final = false

variable {turn next : ProgressTurn}

theorem Follows.of_content (origin : next.toTurnOrigin = turn.toTurnOrigin)
    (content : next.toTurnContent = turn.toTurnContent) : turn.Follows next where
  origin := origin
  revision := by rw [content]
  final := fun final => by rw [content, final]

theorem Follows.refl (turn : ProgressTurn) : turn.Follows turn := .of_content rfl rfl

theorem Follows.ident (follows : turn.Follows next) : next.ident = turn.ident := by
  rw [follows.origin]

theorem Follows.key (follows : turn.Follows next) : next.key = turn.key := by
  rw [follows.origin]

theorem Sound.of_content (sound : turn.Sound) (content : next.toTurnContent = turn.toTurnContent) :
    next.Sound where
  published := by
    rw [content]
    exact sound.published
  final := by
    rw [content]
    exact sound.final

theorem Amends.of_bump (origin : next.toTurnOrigin = turn.toTurnOrigin)
    (delivery : next.toTurnDelivery = turn.toTurnDelivery)
    (bump : next.revision = turn.revision + 1)
    (final : turn.final = true → next.final = true) : turn.Amends next where
  origin := origin
  revision := by omega
  final := final
  delivery := delivery

theorem AmendsQuietly.sound (amends : turn.AmendsQuietly next) (sound : turn.Sound) :
    next.Sound where
  published := by
    have before := sound.published
    have grown := amends.revision
    rw [amends.published]
    omega
  final := fun final => absurd final (by simp [amends.unfinished])

/-- What a hook may answer for a turn. -/
def Admits (turn : ProgressTurn) : Amended → Prop
  | .kept => True
  | .quiet next => turn.AmendsQuietly next
  | .published next => turn.Amends next ∧ next.revision = turn.revision + 1

theorem hasRealTool_iff : turn.hasRealTool = true ↔
    ∃ id tool, turn.tools.get? id = some tool ∧ tool.isThinking = false := by
  simp [TurnContent.hasRealTool, Dict.mem_entries_iff]

/-- Adding a thinking step adds no real tool. -/
private theorem hasRealTool_of_set {id : PyStr} {tool : ProgressTool}
    (thinking : tool.isThinking = true)
    (tools : next.tools = turn.tools.set id tool) (real : next.hasRealTool = true) :
    turn.hasRealTool = true := by
  obtain ⟨other, found, stored, isReal⟩ := hasRealTool_iff.mp real
  rw [tools, Dict.get?_set] at stored
  split at stored
  · cases stored
    simp [thinking] at isReal
  · exact hasRealTool_iff.mpr ⟨other, found, stored, isReal⟩

theorem modelStarted_admits (modelCallId label : PyStr) (now : Int) :
    turn.Admits (turn.modelStarted modelCallId label now) := by
  by_cases final : turn.final = true
  · rw [modelStarted, if_pos final]
    trivial
  · rw [modelStarted, if_neg final]
    exact {
      toAmends := .of_bump rfl rfl rfl id
      published := rfl
      real := hasRealTool_of_set rfl rfl
      unfinished := eq_false_of_ne_true final }

theorem modelFinished_admits (finish : ModelFinish) :
    turn.Admits (turn.modelFinished finish) := by
  by_cases final : turn.final = true
  · rw [modelFinished, if_pos final]
    trivial
  · rw [modelFinished, if_neg final]
    cases turn.thinkingStep? finish.modelCallId with
    | none => trivial
    | some step => exact ⟨.of_bump rfl rfl rfl id, rfl⟩

private theorem cardAuthored_real {now : Int} (real : (turn.cardAuthored now).hasRealTool = true) :
    turn.hasRealTool = true := by
  by_cases before : turn.hasRealTool = true
  · exact before
  · obtain ⟨id, tool, stored, isReal⟩ := hasRealTool_iff.mp real
    simp only [cardAuthored, before, if_false, Bool.false_eq_true, Dict.get?_filterKeys] at stored
    split at stored
    · exact hasRealTool_iff.mpr ⟨id, tool, stored, isReal⟩
    · cases stored

theorem toolStarted_admits (start : ToolStart) : turn.Admits (turn.toolStarted start) := by
  by_cases final : turn.final = true
  · rw [toolStarted, if_pos final]
    trivial
  · rw [toolStarted, if_neg final]
    by_cases authoring : start.toolName ∈ cardAuthoringTools
    · rw [if_pos authoring]
      exact {
        toAmends := .of_bump rfl rfl rfl id
        published := rfl
        real := cardAuthored_real
        unfinished := eq_false_of_ne_true final }
    · rw [if_neg authoring]
      exact ⟨.of_bump rfl rfl rfl id, rfl⟩

/-- Taking a fallback id off changes nothing else. -/
private theorem finishedCall_eq (finish : ToolFinish) : ∃ fallbackIds,
    (turn.finishedCall finish).2 = { turn with fallbackIds } := by
  rw [finishedCall]
  split
  · exact ⟨turn.fallbackIds, rfl⟩
  · dsimp only
    split
    · exact ⟨turn.fallbackIds, rfl⟩
    · exact ⟨_, rfl⟩
    · exact ⟨_, rfl⟩

theorem toolFinished_admits (finish : ToolFinish) : turn.Admits (turn.toolFinished finish) := by
  by_cases final : turn.final = true
  · rw [toolFinished, if_pos final]
    trivial
  · rw [toolFinished, if_neg final]
    obtain ⟨fallbackIds, found⟩ := turn.finishedCall_eq finish
    dsimp only
    rw [found]
    split
    · exact {
        origin := rfl
        revision := Nat.le_refl _
        final := id
        delivery := rfl
        published := rfl
        real := id
        unfinished := eq_false_of_ne_true final }
    · exact ⟨.of_bump rfl rfl rfl id, rfl⟩

theorem ended_amends (finalPhase : PyStr) (status : ToolStatus) (now : Int) :
    turn.Amends (turn.ended finalPhase status now) := .of_bump rfl rfl rfl fun _ => rfl

theorem complete_admits (failed : Bool) (terminalPhase : PyStr) (now : Int) :
    turn.Admits (turn.complete failed terminalPhase now) := ⟨ended_amends _ _ now, rfl⟩

theorem stopped_admits (now : Int) : turn.Admits (.published (turn.stopped now)) :=
  ⟨ended_amends _ _ now, rfl⟩

end ProgressTurn

/-- A turn is stored under its own key and nowhere else, each drain looks for its turns
where they are, and no turn leaves without a record. -/
structure Filed (controller : Controller) : Prop where
  keyed : ∀ {key turn}, controller.states.get? key = some turn → turn.key = key
  known : ∀ {key turn}, controller.states.get? key = some turn → turn.ident < controller.created
  sound : ∀ {key turn}, controller.states.get? key = some turn → turn.Sound
  single : ∀ {key other turn copy}, controller.states.get? key = some turn →
    controller.states.get? other = some copy → turn.ident = copy.ident → key = other
  served : ∀ {drain ident}, drain ∈ controller.drains → drain.Serves ident →
    ident < controller.created
  placed : ∀ {drain key turn}, drain ∈ controller.drains →
    controller.states.get? key = some turn → drain.Serves turn.ident → drain.key = key
  loyal : ∀ {drain snap key turn}, drain ∈ controller.drains → snap ∈ drain.state? →
    controller.states.get? key = some turn → turn.ident = drain.owner → snap.ident = drain.owner
  older : ∀ {drain snap key turn}, drain ∈ controller.drains → snap ∈ drain.state? →
    controller.states.get? key = some turn → turn.ident = snap.ident →
      snap.revision ≤ turn.revision
  recorded : ∀ {ident}, ident < controller.created →
    (∃ key turn, controller.states.get? key = some turn ∧ turn.ident = ident) ∨
      ∃ turn cause, .removed turn cause ∈ controller.log ∧ turn.ident = ident

namespace Filed

variable {controller : Controller}

theorem start (adapters : Nat → AdapterStatus) : Filed (.start adapters) where
  keyed := fun stored => by cases stored
  known := fun stored => by cases stored
  sound := fun stored => by cases stored
  single := fun stored => by cases stored
  served := fun member => by cases member
  placed := fun member => by cases member
  loyal := fun member => by cases member
  older := fun member => by cases member
  recorded := fun known => by cases known

/-- A stored turn is written by a hook or a drain. -/
theorem store (filed : Filed controller) {key : ProgressKey} {turn next : ProgressTurn}
    (stored : controller.states.get? key = some turn) (follows : turn.Follows next)
    (sound : next.Sound) : Filed (controller.store key next) := by
  -- what is stored now goes back to a turn that was stored under the same key
  have origin : ∀ {other found}, (controller.states.set key next).get? other = some found →
      ∃ before, controller.states.get? other = some before ∧ before.Follows found ∧ found.Sound := by
    intro other found held
    rw [Dict.get?_set] at held
    split at held
    · rename_i same
      cases held
      exact ⟨turn, same ▸ stored, follows, sound⟩
    · exact ⟨found, held, .refl found, filed.sound held⟩
  constructor
  case keyed =>
    intro other found held
    obtain ⟨before, was, followed, _⟩ := origin held
    rw [followed.key, filed.keyed was]
  case known =>
    intro other found held
    obtain ⟨before, was, followed, _⟩ := origin held
    rw [followed.ident]
    exact filed.known was
  case sound =>
    intro other found held
    exact (origin held).choose_spec.2.2
  case single =>
    intro first second found copy held copied same
    obtain ⟨before, was, followed, _⟩ := origin held
    obtain ⟨source, wasCopied, copyFollowed, _⟩ := origin copied
    rw [followed.ident, copyFollowed.ident] at same
    exact filed.single was wasCopied same
  case served => exact filed.served
  case placed =>
    intro drain other found member held serves
    obtain ⟨before, was, followed, _⟩ := origin held
    exact filed.placed member was (followed.ident ▸ serves)
  case loyal =>
    intro drain snap other found member present held same
    obtain ⟨before, was, followed, _⟩ := origin held
    exact filed.loyal member present was (followed.ident ▸ same)
  case older =>
    intro drain snap other found member present held same
    obtain ⟨before, was, followed, _⟩ := origin held
    exact (filed.older member present was (followed.ident ▸ same)).trans followed.revision
  case recorded =>
    intro ident below
    obtain ⟨other, found, held, same⟩ | gone := filed.recorded below
    · by_cases here : key = other
      · subst here
        rw [stored] at held
        cases held
        exact .inl ⟨key, next, Dict.get?_set_self _ _ _, follows.ident.trans same⟩
      · exact .inl ⟨other, found, by rw [← held]; exact Dict.get?_set_of_ne _ _ here, same⟩
    · exact .inr gone

theorem record (filed : Filed controller) (entry : Record) : Filed (controller.record entry) where
  keyed := filed.keyed
  known := filed.known
  sound := filed.sound
  single := filed.single
  served := filed.served
  placed := filed.placed
  loyal := filed.loyal
  older := filed.older
  recorded := fun below => (filed.recorded below).imp_right fun ⟨turn, cause, logged, same⟩ =>
    ⟨turn, cause, List.mem_cons_of_mem entry logged, same⟩

theorem adapter (filed : Filed controller) (adapters : Nat → AdapterStatus) :
    Filed { controller with adapters } where
  keyed := filed.keyed
  known := filed.known
  sound := filed.sound
  single := filed.single
  served := filed.served
  placed := filed.placed
  loyal := filed.loyal
  older := filed.older
  recorded := filed.recorded

/-- A drop takes one turn out and records it. -/
theorem drop (filed : Filed controller) (key : ProgressKey) (cause : Cause) (discards : Bool) :
    Filed (controller.dropStateLocked key cause discards).2 := by
  rw [Controller.dropStateLocked]
  cases stored : controller.states.get? key with
  | none => exact filed
  | some turn =>
    have left : ∀ {other found}, (controller.states.erase key).get? other = some found →
        controller.states.get? other = some found := by
      intro other found held
      rw [Dict.get?_erase] at held
      split at held
      · cases held
      · exact held
    exact {
      keyed := fun held => filed.keyed (left held)
      known := fun held => filed.known (left held)
      sound := fun held => filed.sound (left held)
      single := fun held copied => filed.single (left held) (left copied)
      served := filed.served
      placed := fun member held => filed.placed member (left held)
      loyal := fun member present held => filed.loyal member present (left held)
      older := fun member present held => filed.older member present (left held)
      recorded := fun {ident} below => by
        obtain ⟨other, found, held, same⟩ | ⟨found, why, logged, same⟩ := filed.recorded below
        · by_cases here : key = other
          · subst here
            rw [stored] at held
            cases held
            refine .inr ⟨_, cause, List.mem_cons_self, ?_⟩
            split <;> exact same
          · refine .inl ⟨other, found, ?_, same⟩
            rw [← held, Dict.get?_erase, if_neg here]
        · exact .inr ⟨found, why, List.mem_cons_of_mem _ logged, same⟩ }

/-- A fresh turn goes under a key that holds nothing. -/
theorem insert (filed : Filed controller) {key : ProgressKey}
    (free : controller.states.get? key = none) (adapter : Nat) (route : TrustedOctoRoute)
    (mode : Option DeliveryMode) (now : Int) :
    Filed (controller.insert adapter route key mode now) := by
  have origin : ∀ {other found},
      (controller.insert adapter route key mode now).states.get? other = some found →
      (other = key ∧ found = .fresh ⟨controller.created, adapter, route, key, now⟩ mode) ∨
        controller.states.get? other = some found := by
    intro other found held
    rw [Controller.insert, Controller.store, Dict.get?_set] at held
    split at held
    · rename_i same
      cases held
      exact .inl ⟨same.symm, rfl⟩
    · exact .inr held
  have older : ∀ {other found}, controller.states.get? other = some found →
      found.ident ≠ controller.created := fun held => Nat.ne_of_lt (filed.known held)
  constructor
  case keyed =>
    intro other found held
    obtain ⟨here, fresh⟩ | was := origin held
    · rw [fresh, here]
      rfl
    · exact filed.keyed was
  case known =>
    intro other found held
    obtain ⟨_, fresh⟩ | was := origin held
    · rw [fresh]
      exact Nat.lt_succ_self _
    · exact Nat.lt_succ_of_lt (filed.known was)
  case sound =>
    intro other found held
    obtain ⟨_, fresh⟩ | was := origin held
    · rw [fresh]
      exact ⟨by simp [ProgressTurn.fresh], fun final => by cases final⟩
    · exact filed.sound was
  case single =>
    intro first second found copy held copied same
    obtain ⟨here, fresh⟩ | was := origin held
    · obtain ⟨there, _⟩ | wasCopied := origin copied
      · rw [here, there]
      · rw [fresh] at same
        exact absurd same.symm (older wasCopied)
    · obtain ⟨_, fresh⟩ | wasCopied := origin copied
      · rw [fresh] at same
        exact absurd same (older was)
      · exact filed.single was wasCopied same
  case served =>
    intro drain ident member serves
    exact Nat.lt_succ_of_lt (filed.served member serves)
  case placed =>
    intro drain other found member held serves
    obtain ⟨_, fresh⟩ | was := origin held
    · rw [fresh] at serves
      exact absurd (filed.served member serves) (Nat.lt_irrefl _)
    · exact filed.placed member was serves
  case loyal =>
    intro drain snap other found member present held same
    obtain ⟨_, fresh⟩ | was := origin held
    · rw [fresh] at same
      exact absurd (filed.served member (.inl same.symm)) (Nat.lt_irrefl _)
    · exact filed.loyal member present was same
  case older =>
    intro drain snap other found member present held same
    obtain ⟨_, fresh⟩ | was := origin held
    · rw [fresh] at same
      have serves : drain.Serves controller.created := .inr ⟨snap, present, same.symm⟩
      exact absurd (filed.served member serves) (Nat.lt_irrefl _)
    · exact filed.older member present was same
  case recorded =>
    intro ident below
    have cases := Nat.lt_succ_iff_lt_or_eq.mp below
    obtain older | same := cases
    · obtain ⟨other, found, held, same⟩ | gone := filed.recorded older
      · have elsewhere : key ≠ other := fun here => by
          rw [here, held] at free
          cases free
        exact .inl ⟨other, found, by
          rw [← held]
          exact Dict.get?_set_of_ne _ _ elsewhere, same⟩
      · exact .inr gone
    · exact .inl ⟨key, _, Dict.get?_set_self _ _ _, same.symm⟩

/-- A drain moves on: what it holds is what it held, or what it has just read. -/
theorem setDrain (filed : Filed controller) {index : Nat} {drain next : Drain}
    (running : controller.drains[index]? = some drain) (key : next.key = drain.key)
    (owner : next.owner = drain.owner)
    (holds : ∀ snap ∈ next.state?, snap ∈ drain.state? ∨
      ∃ turn now, controller.states.get? drain.key = some turn ∧ snap = turn.snapshot now) :
    Filed (controller.setDrain index next) := by
  have member : drain ∈ controller.drains := List.mem_of_getElem? running
  -- the snapshot read last is of the turn under the key of the drain
  have read : ∀ {ident}, next.Serves ident → drain.Serves ident ∨
      ∃ turn, controller.states.get? drain.key = some turn ∧ turn.ident = ident := by
    intro ident serves
    obtain same | ⟨snap, present, same⟩ := serves
    · exact .inl (.inl (owner ▸ same))
    · obtain held | ⟨turn, now, stored, taken⟩ := holds snap present
      · exact .inl (.inr ⟨snap, held, same⟩)
      · exact .inr ⟨turn, stored, by rw [← same, taken]; rfl⟩
  constructor
  case keyed => exact filed.keyed
  case known => exact filed.known
  case sound => exact filed.sound
  case single => exact filed.single
  case served =>
    intro other ident present serves
    obtain was | same := List.mem_or_eq_of_mem_set present
    · exact filed.served was serves
    · subst same
      obtain before | ⟨turn, stored, same⟩ := read serves
      · exact filed.served member before
      · exact same ▸ filed.known stored
  case placed =>
    intro other there found present held serves
    obtain was | same := List.mem_or_eq_of_mem_set present
    · exact filed.placed was held serves
    · subst same
      rw [key]
      obtain before | ⟨turn, stored, same⟩ := read serves
      · exact filed.placed member held before
      · exact filed.single stored held same
  case loyal =>
    intro other snap there found present taken held same
    obtain was | moved := List.mem_or_eq_of_mem_set present
    · exact filed.loyal was taken held same
    · subst moved
      rw [owner] at same ⊢
      obtain before | ⟨turn, now, stored, copied⟩ := holds snap taken
      · exact filed.loyal member before held same
      · have here := filed.placed member held (.inl same.symm)
        rw [here] at stored
        cases stored.symm.trans held
        rw [copied]
        exact same
  case older =>
    intro other snap there found present taken held same
    obtain was | same' := List.mem_or_eq_of_mem_set present
    · exact filed.older was taken held same
    · subst same'
      obtain before | ⟨turn, now, stored, copied⟩ := holds snap taken
      · exact filed.older member before held same
      · have ident : turn.ident = found.ident := by rw [same, copied]; rfl
        have here := filed.single stored held ident
        rw [here] at stored
        cases stored.symm.trans held
        rw [copied]
        exact Nat.le_refl _
  case recorded => exact filed.recorded

/-- A turn that is scheduled gets a drain of its own. -/
theorem queue (filed : Filed controller) {key : ProgressKey} {turn : ProgressTurn}
    (stored : controller.states.get? key = some turn) (adapter : Nat) :
    Filed { controller with drains := controller.drains ++ [⟨key, turn.ident, adapter, 0, .queued⟩] } := by
  have serving : ∀ {ident}, (⟨key, turn.ident, adapter, 0, .queued⟩ : Drain).Serves ident →
      turn.ident = ident := by
    intro ident serves
    obtain same | ⟨snap, present, _⟩ := serves
    · exact same
    · cases present
  constructor
  case keyed => exact filed.keyed
  case known => exact filed.known
  case sound => exact filed.sound
  case single => exact filed.single
  case served =>
    intro drain ident member serves
    obtain was | added := List.mem_append.mp member
    · exact filed.served was serves
    · rw [List.mem_singleton.mp added] at serves
      exact serving serves ▸ filed.known stored
  case placed =>
    intro drain other found member held serves
    obtain was | added := List.mem_append.mp member
    · exact filed.placed was held serves
    · rw [List.mem_singleton.mp added] at serves ⊢
      exact filed.single stored held (serving serves)
  case loyal =>
    intro drain snap other found member present held same
    obtain was | added := List.mem_append.mp member
    · exact filed.loyal was present held same
    · rw [List.mem_singleton.mp added] at present
      cases present
  case older =>
    intro drain snap other found member present held same
    obtain was | added := List.mem_append.mp member
    · exact filed.older was present held same
    · rw [List.mem_singleton.mp added] at present
      cases present
  case recorded => exact filed.recorded

end Filed

end OctoChannel.Progress
